import UchiPulse.Lib.Sql

/-! The statements of an idle connection, one after the other. Each of them reads the tables
that the commits before it have left, unless it is refused. -/
namespace UchiPulse.Sql
variable {T ε α : Type} {env : Env T ε} {self next : Connection T}

/-- The tables that the `n`th statement from now reads. -/
def Connection.seen (self : Connection T) (env : Env T ε) (n : Nat) : T := (self.ticks env n).committed

/-- None of the next statements is refused. -/
def Undisturbed (env : Env T ε) (self : Connection T) (count : Nat) : Prop :=
  ∀ n < count, env.fault (self.clock + n) = none

theorem tick_clock : (self.tick env).clock = self.clock + 1 := by
  unfold Connection.tick
  split <;> rfl

theorem ticks_clock (n : Nat) : (self.ticks env n).clock = self.clock + n := by
  induction n generalizing self with
  | zero => rfl
  | succ n ih =>
    have later : ((self.tick env).ticks env n).clock = self.clock + 1 + n := ih.trans (by rw [tick_clock])
    exact later.trans (by omega)

theorem ticks_working (n : Nat) : (self.ticks env n).working = self.working := by
  induction n generalizing self with
  | zero => rfl
  | succ n ih => exact ih.trans tick_working

theorem ticks_add (m n : Nat) : (self.ticks env m).ticks env n = self.ticks env (m + n) := by
  induction m generalizing self with
  | zero => rw [Nat.zero_add]; rfl
  | succ m ih =>
    rw [Nat.add_right_comm]
    exact ih

theorem seen_ticks (m n : Nat) : (self.ticks env m).seen env n = self.seen env (m + n) :=
  congrArg Connection.committed (ticks_add m n)

theorem undisturbed_zero : Undisturbed env self 0 := fun _ before => absurd before (Nat.not_lt_zero _)

theorem undisturbed_one : Undisturbed env self 1 ↔ env.fault self.clock = none := by
  constructor
  · exact fun calm => calm 0 Nat.one_pos
  · intro calm n before
    obtain rfl : n = 0 := by omega
    exact calm

theorem undisturbed_add {m n : Nat} :
    Undisturbed env self (m + n) ↔ Undisturbed env self m ∧ Undisturbed env (self.ticks env m) n := by
  simp only [Undisturbed,ticks_clock]
  constructor
  · intro calm
    refine ⟨fun i before => calm i (by omega),fun i before => ?_⟩
    rw [Nat.add_assoc]
    exact calm (m + i) (by omega)
  · rintro ⟨first,second⟩ i before
    by_cases early : i < m
    · exact first i early
    · have late := second (i - m) (by omega)
      rwa [show self.clock + m + (i - m) = self.clock + i by omega] at late

theorem undisturbed_quiet (quiet : Quiet env) (count : Nat) : Undisturbed env self count :=
  fun n _ => quiet.fault (self.clock + n)

/-- On an undisturbed connection every statement reads the same tables. -/
theorem seen_quiet (quiet : Quiet env) (n : Nat) : self.seen env n = self.committed := by
  unfold Connection.seen
  induction n generalizing self with
  | zero => rfl
  | succ n ih => rw [Connection.ticks,ih,tick_alone quiet.others]

/-- What an idle connection reads. -/
theorem view_ticks (idle : self.working = none) (n : Nat) : (self.ticks env n).view = self.seen env n := by
  have closed : (self.ticks env n).working = none := (ticks_working n).trans idle
  rw [Connection.view,closed]
  rfl

theorem query_eq_ok {read : T → Except ε α} {value : α} (idle : self.working = none) :
    query read env self = (.ok value,next) ↔
      Undisturbed env self 1 ∧ read (self.seen env 1) = .ok value ∧ next = self.ticks env 1 := by
  have view : (self.tick env).view = self.seen env 1 := view_ticks idle 1
  simp only [query,undisturbed_one]
  cases env.fault self.clock with
  | some fault => cases fault <;> simp [Connection.fail]
  | none => simp [view,Connection.ticks,eq_comm]

end UchiPulse.Sql
