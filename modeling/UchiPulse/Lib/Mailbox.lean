import Mathlib.Data.List.Basic

/-! A bounded channel between a producer, which waits while it is full, and a consumer. -/
namespace UchiPulse

/-- `outbox` is what the producer still waits to send. -/
structure Mailbox (α : Type) where
  outbox : List α
  queue : List α
deriving DecidableEq

namespace Mailbox
variable {α : Type} (capacity : Nat) (self : Mailbox α)

def empty : Mailbox α where
  outbox := []
  queue := []

def offer (items : List α) : Mailbox α := { self with outbox := self.outbox ++ items }

/-- The producer's first item goes in, if there is room. -/
def send : Mailbox α :=
  match self.outbox with
  | [] => self
  | item :: rest =>
    if self.queue.length < capacity then { outbox := rest,queue := self.queue ++ [item] } else self

def receive : Option α × Mailbox α :=
  match self.queue with
  | [] => (none,self)
  | item :: rest => (some item,{ self with queue := rest })

/-- What is under way, in the order in which it will be received. -/
def items : List α := self.queue ++ self.outbox

@[simp] theorem items_empty : (empty : Mailbox α).items = [] := rfl

@[simp] theorem items_offer (items : List α) : (self.offer items).items = self.items ++ items :=
  (List.append_assoc _ _ _).symm

@[simp] theorem items_send : (self.send capacity).items = self.items := by
  unfold send
  split
  · rfl
  · next item rest held =>
    split
    · simp [items,held]
    · rfl

/-- Nothing is lost, and the first comes out first. -/
theorem items_receive : self.receive.1.toList ++ self.receive.2.items = self.items := by
  unfold receive
  split
  · rfl
  · next item rest held => simp [items,held]

theorem bounded_send (bounded : self.queue.length ≤ capacity) : (self.send capacity).queue.length ≤ capacity := by
  unfold send
  split
  · exact bounded
  · split
    · next room =>
      rw [List.length_append,List.length_singleton]
      exact room
    · exact bounded

theorem bounded_receive (bounded : self.queue.length ≤ capacity) : self.receive.2.queue.length ≤ capacity := by
  unfold receive
  split
  · exact bounded
  · next held =>
    rw [held] at bounded
    exact Nat.le_of_succ_le bounded

end Mailbox

end UchiPulse
