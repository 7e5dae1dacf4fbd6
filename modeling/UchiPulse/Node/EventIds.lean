import UchiPulse.Node.Udp

/-! The identifiers a node hands out, over all boots. The sequence number stops before its
largest value, and the generator stays there. -/
namespace UchiPulse.Node
open Common Json

namespace EventIdGenerator

/-- The generator after a number of calls. -/
def after (self : EventIdGenerator) : Nat → EventIdGenerator
  | 0 => self
  | n + 1 => (self.after n).nextEventId.2

/-- The outcome of the call that `n` others precede. -/
def call (self : EventIdGenerator) (n : Nat) : Except ProtocolError EventId := (self.after n).nextEventId.1

theorem after_bootId (self : EventIdGenerator) (n : Nat) : (self.after n).bootId = self.bootId := by
  induction n with
  | zero => rfl
  | succ n ih =>
    rcases nextEventId_eq (self.after n) with ⟨eventId,-,-,found⟩ | ⟨-,exhausted⟩
    · rw [after,found]
      exact ih
    · rw [after,exhausted]
      exact ih

/-- Each call takes one sequence number, as long as there is one. -/
theorem after_sequence (self : EventIdGenerator) (n : Nat) :
    (self.after n).nextSequence.toNat = min (self.nextSequence.toNat + n) (UInt64.size - 1) := by
  have bound := self.nextSequence.toNat_lt
  induction n with
  | zero =>
    change self.nextSequence.toNat = _
    simp only [UInt64.size]
    omega
  | succ n ih =>
    rcases nextEventId_eq (self.after n) with ⟨eventId,-,more,found⟩ | ⟨last,exhausted⟩
    · rw [after,found]
      have next : ((self.after n).nextSequence + 1).toNat = (self.after n).nextSequence.toNat + 1 := by
        simp only [UInt64.toNat_add,UInt64.toNat_one]
        exact Nat.mod_eq_of_lt more
      rw [next]
      omega
    · rw [after,exhausted]
      change (self.after n).nextSequence.toNat = _
      omega

/-- A successful call takes the sequence number of its place. -/
theorem new_call_ok {bootId : UInt64} {n : Nat} {eventId : EventId} (ok : (new bootId).call n = .ok eventId) :
    n + 1 < UInt64.size ∧ eventId.val = eventIdText bootId (UInt64.ofNat (n + 1)) := by
  have sequence := after_sequence (new bootId) n
  have boot : ((new bootId).after n).bootId = bootId := after_bootId (new bootId) n
  have first : (new bootId).nextSequence.toNat = 1 := rfl
  rw [first] at sequence
  unfold call at ok
  rcases nextEventId_eq ((new bootId).after n) with ⟨found,text,more,same⟩ | ⟨-,exhausted⟩
  · rw [same] at ok
    cases ok
    have place : ((new bootId).after n).nextSequence.toNat = n + 1 := by omega
    refine ⟨by omega,?_⟩
    rw [text,boot,← place,UInt64.ofNat_toNat]
  · rw [exhausted] at ok
    cases ok

/-- Once the sequence is exhausted, it stays exhausted. -/
theorem exhausted_stays {self : EventIdGenerator} (exhausted : self.nextEventId = (.error .sequenceExhausted,self))
    (n : Nat) : self.after n = self ∧ self.call n = .error .sequenceExhausted := by
  have stays : self.after n = self := by
    induction n with
    | zero => rfl
    | succ n ih => rw [after,ih,exhausted]
  exact ⟨stays,by rw [call,stays,exhausted]⟩

end EventIdGenerator

/-! ### The order of the texts -/

theorem hexDigit_lt : ∀ left < 16, ∀ right < 16, left < right →
    String.utf8EncodeChar (hexDigit left) < String.utf8EncodeChar (hexDigit right) := by
  decide

/-- Digits of one width stand in the order of their values, whatever follows. -/
theorem hex_lt {width left right : Nat} (less : left < right) (small : right < 16 ^ width)
    (rest rest' : List UInt8) :
    (hex width left).flatMap String.utf8EncodeChar ++ rest <
      (hex width right).flatMap String.utf8EncodeChar ++ rest' := by
  induction width generalizing left right rest rest' with
  | zero =>
    simp only [Nat.pow_zero] at small
    omega
  | succ width ih =>
    rw [Nat.pow_succ] at small
    simp only [hex,List.flatMap_append,List.append_assoc]
    by_cases high : left / 16 < right / 16
    · exact ih high (by omega) _ _
    · have same : left / 16 = right / 16 := by omega
      have low : left % 16 < right % 16 := by omega
      have below (value : Nat) : value % 16 < 16 := Nat.mod_lt _ (by decide)
      obtain ⟨first,one⟩ := List.length_eq_one_iff.mp (hexDigit_ascii _ (below left))
      obtain ⟨second,other⟩ := List.length_eq_one_iff.mp (hexDigit_ascii _ (below right))
      have digits := hexDigit_lt _ (below left) _ (below right) low
      rw [one,other,List.cons_lt_cons_iff] at digits
      rw [same]
      apply List.append_left_lt
      simp only [List.flatMap_cons,List.flatMap_nil,one,other,List.cons_append,List.nil_append]
      apply List.cons_lt_cons_iff.mpr
      rcases digits with before | ⟨-,never⟩
      · exact .inl before
      · cases never

theorem eventIdText_lt (bootId : UInt64) {sequence sequence' : UInt64} (less : sequence < sequence') :
    Utf8.bytes (eventIdText bootId sequence) < Utf8.bytes (eventIdText bootId sequence') := by
  have small : sequence'.toNat < 16 ^ 16 := sequence'.toNat_lt
  have digits := hex_lt (UInt64.lt_iff_toNat_lt.mp less) small [] []
  rw [List.append_nil,List.append_nil] at digits
  simp only [eventIdText,Utf8.bytes_ofList,List.flatMap_append,List.flatMap_cons]
  exact List.append_left_lt (List.append_left_lt digits)

/-- Identifiers name their boot and their place in it, and grow with the place; none
outgrows its buffer; and an exhausted generator refuses every later call unchanged. -/
theorem event_ids_never_repeat :
    (∀ bootId bootId' i j eventId eventId', (EventIdGenerator.new bootId).call i = .ok eventId →
      (EventIdGenerator.new bootId').call j = .ok eventId' →
        (eventId = eventId' ↔ bootId = bootId' ∧ i = j)) ∧
    (∀ bootId i j eventId eventId', i < j → (EventIdGenerator.new bootId).call i = .ok eventId →
      (EventIdGenerator.new bootId).call j = .ok eventId' →
        Utf8.bytes eventId.val < Utf8.bytes eventId'.val) ∧
    (∀ bootId sequence, (Utf8.bytes (eventIdText bootId sequence)).length ≤ eventIdCapacity) ∧
    (∀ self : NodeUdpProtocol, ∀ action, self.eventIds.nextEventId.1 ≠ .error .eventIdTooLong ∧
      (self.eventFromAction action).1 ≠ .error .eventIdTooLong) ∧
    ∀ (self : EventIdGenerator) (error : ProtocolError), self.nextEventId.1 = .error error →
      error = .sequenceExhausted ∧ self.nextEventId.2 = self ∧
        ∀ n, self.after n = self ∧ self.call n = .error .sequenceExhausted := by
  refine ⟨?_,?_,?_,?_,?_⟩
  · intro bootId bootId' i j eventId eventId' first second
    obtain ⟨more,text⟩ := EventIdGenerator.new_call_ok first
    obtain ⟨more',text'⟩ := EventIdGenerator.new_call_ok second
    constructor
    · rintro rfl
      obtain ⟨boots,sequences⟩ := eventIdText_inj (text.symm.trans text')
      have places := congrArg UInt64.toNat sequences
      rw [UInt64.toNat_ofNat_of_lt' more,UInt64.toNat_ofNat_of_lt' more'] at places
      exact ⟨boots,by omega⟩
    · rintro ⟨rfl,rfl⟩
      exact Text.ext (text.trans text'.symm)
  · intro bootId i j eventId eventId' less first second
    obtain ⟨more,text⟩ := EventIdGenerator.new_call_ok first
    obtain ⟨more',text'⟩ := EventIdGenerator.new_call_ok second
    rw [text,text']
    apply eventIdText_lt
    rw [UInt64.lt_iff_toNat_lt,UInt64.toNat_ofNat_of_lt' more,UInt64.toNat_ofNat_of_lt' more']
    omega
  · intro bootId sequence
    rw [eventIdText_length]
    decide
  · intro self action
    unfold NodeUdpProtocol.eventFromAction
    rcases nextEventId_eq self.eventIds with ⟨eventId,-,-,found⟩ | ⟨-,exhausted⟩
    · rw [found]
      exact ⟨by nofun,by nofun⟩
    · rw [exhausted]
      exact ⟨by nofun,by nofun⟩
  · intro self error failed
    rcases nextEventId_eq self with ⟨eventId,-,-,found⟩ | ⟨-,exhausted⟩
    · rw [found] at failed
      cases failed
    · have stays := EventIdGenerator.exhausted_stays exhausted
      rw [exhausted] at failed ⊢
      cases failed
      exact ⟨rfl,rfl,stays⟩

/-- Two calls of one boot, and one of another. -/
theorem event_ids_never_repeat_boots : ∃ first second other,
    (EventIdGenerator.new 1).call 0 = .ok first ∧ (EventIdGenerator.new 1).call 1 = .ok second ∧
      (EventIdGenerator.new 2).call 0 = .ok other ∧
      first ≠ second ∧ first ≠ other ∧ Utf8.bytes first.val < Utf8.bytes second.val := by
  obtain ⟨names,grows,-⟩ := event_ids_never_repeat
  have first : (EventIdGenerator.new 1).call 0 = .ok ⟨eventIdText 1 1,by decide⟩ := by decide
  have second : (EventIdGenerator.new 1).call 1 = .ok ⟨eventIdText 1 2,by decide⟩ := by decide
  have other : (EventIdGenerator.new 2).call 0 = .ok ⟨eventIdText 2 1,by decide⟩ := by decide
  refine ⟨_,_,_,first,second,other,?_,?_,?_⟩
  · intro same
    cases ((names _ _ _ _ _ _ first second).mp same).2
  · intro same
    cases ((names _ _ _ _ _ _ first other).mp same).1
  · exact grows _ _ _ _ _ (by decide) first second

end UchiPulse.Node
