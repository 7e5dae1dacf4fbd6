import UchiPulse.Lib.Framing

/-! Messages on a link that carries packets of a limited size. A packet below that size ends
its message, so that a message that fills its last packet has an empty one behind it. -/
namespace UchiPulse.Packets
open Framing
variable {β : Type} (size : Nat)

/-- The first packets of a message. -/
def pieces : Nat → List β → List (List β)
  | 0, _ => []
  | count + 1, message => message.take size :: pieces count (message.drop size)

def packets (message : List β) : List (List β) := pieces size (message.length / size + 1) message

/-- What the receiver makes of one packet, behind those of the message under way. -/
def gather (held packet : List β) : List β × List (List β) :=
  if packet.length < size then ([],[held ++ packet]) else (held ++ packet,[])

variable {size}

theorem pieces_fit {count : Nat} {message packet : List β} (among : packet ∈ pieces size count message) :
    packet.length ≤ size := by
  induction count generalizing message with
  | zero => cases among
  | succ count ih =>
    rcases List.mem_cons.mp among with rfl | later
    · exact List.length_take_le _ _
    · exact ih later

theorem packets_fit {message packet : List β} (among : packet ∈ packets size message) : packet.length ≤ size :=
  pieces_fit among

/-- A message is whole again with its last packet. -/
theorem gather_pieces (positive : 0 < size) (count : Nat) {message : List β} (fills : message.length / size = count)
    (held : List β) : feed (gather size) held (pieces size (count + 1) message) = ([],[held ++ message]) := by
  induction count generalizing message held with
  | zero =>
    have short : message.length < size := (Nat.div_eq_zero_iff_lt positive).mp fills
    simp only [pieces,feed,gather,List.take_of_length_le (Nat.le_of_lt short),if_pos short,List.append_nil]
  | succ count ih =>
    have enough : size ≤ message.length := (Nat.div_pos_iff.mp (fills ▸ Nat.succ_pos count)).2
    have full : ¬ (message.take size).length < size := by
      rw [List.length_take_of_le enough]
      exact Nat.lt_irrefl size
    have later : (message.drop size).length / size = count := by
      have one := Nat.sub_mul_div message.length size 1
      rw [Nat.mul_one,fills,Nat.add_sub_cancel] at one
      rw [List.length_drop,one]
    rw [pieces,feed,gather,if_neg full]
    simp only [ih later,List.nil_append,List.append_assoc,List.take_append_drop]

theorem gather_packets (positive : 0 < size) (message held : List β) :
    feed (gather size) held (packets size message) = ([],[held ++ message]) :=
  gather_pieces positive _ rfl held

theorem flatten_pieces (count : Nat) (message : List β) : (pieces size count message).flatten = message.take (count * size) := by
  induction count generalizing message with
  | zero => rw [Nat.zero_mul,List.take_zero]; rfl
  | succ count ih => rw [pieces,List.flatten_cons,ih,Nat.succ_mul,Nat.add_comm,List.take_add]

theorem flatten_packets (positive : 0 < size) (message : List β) : (packets size message).flatten = message := by
  rw [packets,flatten_pieces]
  apply List.take_of_length_le
  rw [Nat.mul_comm]
  exact Nat.le_of_lt (Nat.lt_mul_div_succ message.length positive)

/-- The packets hold the symbols of the messages and no others. -/
theorem flatten_messages (positive : 0 < size) (messages : List (List β)) :
    (messages.flatMap (packets size)).flatten = messages.flatten := by
  induction messages with
  | nil => rfl
  | cons message messages ih =>
    rw [List.flatMap_cons,List.flatten_append,List.flatten_cons,flatten_packets positive,ih]

/-- Messages arrive as they were sent, one by one. -/
theorem gather_messages (positive : 0 < size) (messages : List (List β)) :
    feed (gather size) [] (messages.flatMap (packets size)) = ([],messages) := by
  induction messages with
  | nil => rfl
  | cons message messages ih =>
    rw [List.flatMap_cons,feed_append,gather_packets positive,ih]
    rfl

end UchiPulse.Packets
