import Mathlib.Data.List.Basic

/-! A region of NOR flash. Erasing sets every bit and programming clears some; each
operation is carried out, refused, or never reached because the power is lost in front of
it, after which nothing happens until the next boot. -/
namespace UchiPulse

/-- The bytes of a region. -/
structure Region (size : Nat) where
  bytes : List UInt8
  sized : bytes.length = size
deriving DecidableEq

@[ext] theorem Region.ext {size : Nat} {left right : Region size} (same : left.bytes = right.bytes) :
    left = right := by
  cases left; cases right; cases same; rfl

def Region.erased (size : Nat) : Region size where
  bytes := List.replicate size 0xff
  sized := List.length_replicate

/-- Bits are cleared where the data has none. -/
def Region.program {size : Nat} (self : Region size) (data : List UInt8) : Region size where
  bytes := self.bytes.zipWith (· &&& ·) data ++ self.bytes.drop data.length
  sized := by
    simp only [List.length_append,List.length_zipWith,List.length_drop,self.sized]
    omega

theorem zipWith_and_replicate {data : List UInt8} {size : Nat} (fits : data.length ≤ size) :
    (List.replicate size 0xff).zipWith (· &&& ·) data = data := by
  induction data generalizing size with
  | nil => simp
  | cons byte data ih =>
    obtain ⟨size,rfl⟩ : ∃ k, size = k + 1 := ⟨size - 1,by simp at fits; omega⟩
    simp only [List.length_cons,Nat.add_le_add_iff_right] at fits
    rw [List.replicate_succ,List.zipWith_cons_cons,ih fits]
    congr 1
    exact UInt8.neg_one_and

/-- Programming an erased region leaves the data in front of erased bytes. -/
theorem Region.program_erased {data : List UInt8} {size : Nat} (fits : data.length ≤ size) :
    ((Region.erased size).program data).bytes = data ++ List.replicate (size - data.length) 0xff := by
  simp only [Region.program,Region.erased,zipWith_and_replicate fits,List.drop_replicate]

namespace NorFlash

inductive Outcome where
  | done | refused | powerLost
deriving DecidableEq

/-- Why an operation has no result. -/
inductive Fault where
  | refused | off
deriving DecidableEq

end NorFlash

/-- A region with what becomes of the operations on it, by their number. -/
structure NorFlash (size : Nat) where
  region : Region size
  performed : Nat
  outcome : Nat → NorFlash.Outcome
  on : Bool

namespace NorFlash
variable {size : Nat} {α : Type}

def perform (self : NorFlash size) (effect : Region size → α × Region size) :
    Except Fault α × NorFlash size :=
  if self.on then
    let next := { self with performed := self.performed + 1 }
    match self.outcome self.performed with
    | .done =>
      let (value,region) := effect self.region
      (.ok value,{ next with region })
    | .refused => (.error .refused,next)
    | .powerLost => (.error .off,{ next with on := false })
  else (.error .off,self)

def erase (self : NorFlash size) : Except Fault Unit × NorFlash size :=
  self.perform fun _ => ((),.erased size)

def program (self : NorFlash size) (data : List UInt8) : Except Fault Unit × NorFlash size :=
  self.perform fun region => ((),region.program data)

def read (self : NorFlash size) : Except Fault (List UInt8) × NorFlash size :=
  self.perform fun region => (region.bytes,region)

/-- Power is back, and nothing fails. -/
def reboot (self : NorFlash size) : NorFlash size where
  region := self.region
  performed := 0
  outcome _ := .done
  on := true

theorem perform_done (self : NorFlash size) (effect : Region size → α × Region size) (on : self.on = true)
    (done : self.outcome self.performed = .done) :
    self.perform effect = (.ok (effect self.region).1,
      { self with performed := self.performed + 1,region := (effect self.region).2 }) := by
  simp only [perform,on,done,if_true]

/-- An operation that is not carried out leaves the bytes. -/
theorem perform_failed (self : NorFlash size) (effect : Region size → α × Region size) (on : self.on = true)
    (failed : self.outcome self.performed ≠ .done) :
    ∃ fault, self.perform effect = (.error fault,{ self with
      performed := self.performed + 1,on := self.outcome self.performed = .refused }) := by
  cases outcome : self.outcome self.performed with
  | done => exact absurd outcome failed
  | refused => exact ⟨.refused,by simp [perform,on,outcome]⟩
  | powerLost => exact ⟨.off,by simp [perform,on,outcome]⟩

end NorFlash

/-- The operations of any flash with a region. An erase or a programming may report and leave
what it likes; only a reading that succeeds returns what is there. -/
structure FlashOperations (size : Nat) (φ : Type) where
  region : φ → Region size
  erase : φ → Except NorFlash.Fault Unit × φ
  program : List UInt8 → φ → Except NorFlash.Fault Unit × φ
  readable : φ → Except NorFlash.Fault Unit × φ
  region_readable : ∀ flash, region (readable flash).2 = region flash

namespace FlashOperations
variable {size : Nat} {φ : Type}

/-- The first bytes of the region. -/
def read (self : FlashOperations size φ) (length : Nat) (flash : φ) : Except NorFlash.Fault (List UInt8) × φ :=
  ((self.readable flash).1.map fun () => (self.region flash).bytes.take length,(self.readable flash).2)

theorem read_ok {self : FlashOperations size φ} {flash : φ} (readable : (self.readable flash).1 = .ok ())
    (length : Nat) :
    self.read length flash = (.ok ((self.region flash).bytes.take length),(self.readable flash).2) := by
  rw [read,readable]
  rfl

theorem read_error {self : FlashOperations size φ} {flash : φ} {fault : NorFlash.Fault}
    (failed : (self.readable flash).1 = .error fault) (length : Nat) :
    self.read length flash = (.error fault,(self.readable flash).2) := by
  rw [read,failed]
  rfl

end FlashOperations

namespace NorFlash
variable {size : Nat}

def operations : FlashOperations size (NorFlash size) where
  region := NorFlash.region
  erase := erase
  program data flash := flash.program data
  readable flash := flash.perform fun region => ((),region)
  region_readable flash := by
    simp only [perform]
    cases flash.on with
    | false => rfl
    | true => cases flash.outcome flash.performed <;> rfl

theorem operations_read (self : NorFlash size) (length : Nat) :
    operations.read length self = (self.read.1.map (List.take length),self.read.2) := by
  obtain ⟨region,performed,outcome,on⟩ := self
  cases on with
  | false => rfl
  | true =>
    simp only [FlashOperations.read,operations,read,perform,if_true]
    cases outcome performed <;> rfl

end NorFlash

end UchiPulse
