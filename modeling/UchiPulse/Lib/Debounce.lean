import Mathlib.Data.List.Chain
import Mathlib.Order.Monotone.Basic

/-! A level that is taken over once it has lasted. A run of samples at one level becomes the
stable level at its first sample that is a delay away from the first one; a shorter run
leaves no trace. Samples are numbered from zero. -/
namespace UchiPulse

structure Debouncer (α : Type) where
  stable : α
  candidate : α
  since : Nat

namespace Debouncer
variable {S α : Type} (level : S → α)

/-- The samples from the first index up to the last one are at a level, and the sample in front
of them is not. -/
structure Run (samples : Nat → S) (value : α) (first last : Nat) : Prop where
  held : ∀ m, first ≤ m → m ≤ last → level (samples m) = value
  begins : ∀ m, m + 1 = first → level (samples m) ≠ value

variable {level} in
theorem Run.first_le {value : α} {first last other : Nat} {samples : Nat → S} (run : Run level samples value first last)
    (held : ∀ m, other ≤ m → m ≤ last → level (samples m) = value) (inside : first ≤ last) : first ≤ other := by
  by_contra later
  obtain ⟨m,rfl⟩ : ∃ m, first = m + 1 := ⟨first - 1,by omega⟩
  exact run.begins m rfl (held m (by omega) (by omega))

variable {level} in
theorem Run.first_eq {value : α} {first last other : Nat} {samples : Nat → S} (run : Run level samples value first last)
    (run' : Run level samples value other last) (inside : first ≤ last) (inside' : other ≤ last) : first = other :=
  Nat.le_antisymm (run.first_le run'.held inside) (run'.first_le run.held inside')

variable [DecidableEq α] (time : S → Nat) (delay : Nat)

/-- One sample, and the level it makes the stable one. -/
def step (self : Debouncer α) (sample : S) : Debouncer α × Option α :=
  if level sample ≠ self.candidate then ({ self with candidate := level sample,since := time sample },none)
  else if self.candidate ≠ self.stable ∧ time sample - self.since ≥ delay then
    ({ self with stable := self.candidate },some self.candidate)
  else (self,none)

/-- In front of a sample. -/
def state (start : Debouncer α) (samples : Nat → S) : Nat → Debouncer α
  | 0 => start
  | k + 1 => ((state start samples k).step level time delay (samples k)).1

/-- The change made by a sample. -/
def edge (start : Debouncer α) (samples : Nat → S) (k : Nat) : Option α :=
  ((start.state level time delay samples k).step level time delay (samples k)).2

/-- The stable level and the candidate agree. -/
def Settled (self : Debouncer α) : Prop := self.candidate = self.stable

variable {level time delay} {start : Debouncer α} {samples : Nat → S}

/-- What the debouncer knows in front of a sample: the level of the sample before, and where
the run of a level that is not yet stable began. -/
structure Tracks (samples : Nat → S) (k : Nat) (before : Debouncer α) (level : S → α) (time : S → Nat)
    (delay : Nat) : Prop where
  last : ∀ m, m + 1 = k → before.candidate = level (samples m)
  begun : k = 0 → before.Settled
  since : ¬ before.Settled → ∃ first, first < k ∧ (∀ m, m + 1 = k → Run level samples before.candidate first m) ∧
    before.since = time (samples first) ∧
    ∀ m, first < m → m < k → time (samples m) - time (samples first) < delay

theorem tracks_step {k : Nat} {before : Debouncer α} (tracks : Tracks samples k before level time delay) :
    Tracks samples (k + 1) (before.step level time delay (samples k)).1 level time delay := by
  unfold step
  by_cases changed : level (samples k) ≠ before.candidate
  · rw [if_pos changed]
    refine ⟨?_,fun none => absurd none (Nat.succ_ne_zero k),fun _ => ⟨k,Nat.lt_succ_self k,?_,rfl,?_⟩⟩
    · intro m same
      rw [Nat.succ_inj.mp same]
    · intro m same
      obtain rfl := Nat.succ_inj.mp same
      refine ⟨fun n low high => by rw [Nat.le_antisymm high low],fun n before' => ?_⟩
      rw [← tracks.last n before']
      exact Ne.symm changed
    · intro m above below
      omega
  · rw [if_neg changed]
    have same : level (samples k) = before.candidate := not_not.mp changed
    by_cases lasted : before.candidate ≠ before.stable ∧ time (samples k) - before.since ≥ delay
    · rw [if_pos lasted]
      refine ⟨?_,fun none => absurd none (Nat.succ_ne_zero k),fun open' => absurd rfl open'⟩
      intro m last
      rw [Nat.succ_inj.mp last]
      exact same.symm
    · rw [if_neg lasted]
      refine ⟨?_,fun none => absurd none (Nat.succ_ne_zero k),fun open' => ?_⟩
      · intro m last
        rw [Nat.succ_inj.mp last]
        exact same.symm
      · obtain ⟨first,inside,run,since,short⟩ := tracks.since open'
        refine ⟨first,by omega,?_,since,?_⟩
        · intro m last
          obtain rfl := Nat.succ_inj.mp last
          obtain ⟨n,rfl⟩ : ∃ n, m = n + 1 := ⟨m - 1,by omega⟩
          have earlier := run n rfl
          refine ⟨fun i low high => ?_,earlier.begins⟩
          rcases Nat.lt_or_ge n i with above | below
          · rw [show i = n + 1 by omega]
            exact same
          · exact earlier.held i low below
        · intro m above below
          rcases Nat.lt_or_ge m k with earlier | here
          · exact short m above earlier
          · obtain rfl : m = k := by omega
            rw [← since]
            exact Nat.lt_of_not_ge fun long => lasted ⟨open',long⟩

variable (level time delay samples) in
theorem tracks_state (settled : start.Settled) (k : Nat) :
    Tracks samples k (start.state level time delay samples k) level time delay := by
  induction k with
  | zero =>
    exact ⟨fun m none => absurd none (Nat.succ_ne_zero m),fun _ => settled,fun open' => absurd settled open'⟩
  | succ k ih => exact tracks_step ih

theorem step_edge {self : Debouncer α} {sample : S} {value : α} :
    (self.step level time delay sample).2 = some value ↔ level sample = value ∧ self.candidate = value ∧
      self.stable ≠ value ∧ time sample - self.since ≥ delay := by
  unfold step
  by_cases changed : level sample ≠ self.candidate
  · rw [if_pos changed]
    simp only [reduceCtorEq,false_iff]
    rintro ⟨rfl,same,-⟩
    exact changed same.symm
  · rw [if_neg changed]
    have same : level sample = self.candidate := not_not.mp changed
    by_cases lasted : self.candidate ≠ self.stable ∧ time sample - self.since ≥ delay
    · rw [if_pos lasted,Option.some.injEq]
      constructor
      · rintro rfl
        exact ⟨same,rfl,Ne.symm lasted.1,lasted.2⟩
      · exact fun found => found.2.1
    · rw [if_neg lasted]
      simp only [reduceCtorEq,false_iff]
      rintro ⟨-,rfl,other,long⟩
      exact lasted ⟨Ne.symm other,long⟩

/-- A run that is not yet the stable level is the candidate. -/
theorem state_run (settled : start.Settled) {value : α} {first last : Nat} (run : Run level samples value first last)
    (inside : first ≤ last) (other : (start.state level time delay samples (last + 1)).stable ≠ value) :
    (start.state level time delay samples (last + 1)).candidate = value ∧
      (start.state level time delay samples (last + 1)).since = time (samples first) := by
  have tracks := tracks_state level time delay samples settled (last + 1)
  have same := (tracks.last last rfl).trans (run.held last inside (Nat.le_refl last))
  obtain ⟨first',inside',run',since,-⟩ := tracks.since fun closed => other (closed.symm.trans same)
  have start := run' last rfl
  rw [same] at start
  obtain rfl := start.first_eq run (by omega) inside
  exact ⟨same,since⟩

/-- A level becomes the stable one at the first sample of its run that is a delay away from
the first sample of the run. -/
theorem edge_iff (settled : start.Settled) {k : Nat} {value : α} :
    start.edge level time delay samples k = some value ↔
      (start.state level time delay samples k).stable ≠ value ∧
      ∃ first, first < k ∧ Run level samples value first k ∧ delay ≤ time (samples k) - time (samples first) ∧
        ∀ m, first < m → m < k → ¬ delay ≤ time (samples m) - time (samples first) := by
  have tracks := tracks_state level time delay samples settled k
  rw [edge,step_edge]
  constructor
  · rintro ⟨here,rfl,other,long⟩
    obtain ⟨first,inside,run,since,short⟩ := tracks.since (Ne.symm other)
    obtain ⟨n,rfl⟩ : ∃ n, k = n + 1 := ⟨k - 1,by omega⟩
    have earlier := run n rfl
    refine ⟨other,first,inside,⟨fun m low high => ?_,earlier.begins⟩,by rw [← since]; exact long,
      fun m above below => Nat.not_le.mpr (short m above below)⟩
    rcases Nat.lt_or_ge n m with above | below
    · rw [show m = n + 1 by omega]
      exact here
    · exact earlier.held m low below
  · rintro ⟨other,first,inside,run,long,-⟩
    obtain ⟨n,rfl⟩ : ∃ n, k = n + 1 := ⟨k - 1,by omega⟩
    have began : Run level samples value first n :=
      ⟨fun m low high => run.held m low (by omega),run.begins⟩
    obtain ⟨same,since⟩ := state_run settled began (by omega) other
    exact ⟨run.held (n + 1) (by omega) (by omega),same,other,by rw [since]; exact long⟩

/-! ### Whole runs -/

theorem step_stable (self : Debouncer α) (sample : S) :
    (self.step level time delay sample).1.stable = ((self.step level time delay sample).2).getD self.stable := by
  unfold step
  split_ifs <;> rfl

theorem state_stable (k : Nat) : (start.state level time delay samples (k + 1)).stable =
    (start.edge level time delay samples k).getD (start.state level time delay samples k).stable :=
  step_stable _ _

/-- The changes made by the first samples. -/
def edges (level : S → α) (time : S → Nat) (delay : Nat) (start : Debouncer α) (samples : Nat → S) (count : Nat) :
    List α :=
  (List.range count).filterMap (start.edge level time delay samples)

/-- Each change leaves the level of the change before it, the first one the initial level. -/
theorem edges_alternate (settled : start.Settled) (count : Nat) :
    (start.stable :: start.edges level time delay samples count).IsChain (· ≠ ·) ∧
      (start.stable :: start.edges level time delay samples count).getLast? =
        some (start.state level time delay samples count).stable := by
  induction count with
  | zero => exact ⟨List.isChain_singleton _,rfl⟩
  | succ count ih =>
    obtain ⟨chain,last⟩ := ih
    have grown : start.edges level time delay samples (count + 1) =
        start.edges level time delay samples count ++ (start.edge level time delay samples count).toList := by
      rw [edges,List.range_succ,List.filterMap_append]
      cases found : start.edge level time delay samples count <;> simp [edges,found]
    rw [grown,state_stable]
    cases found : start.edge level time delay samples count with
    | none =>
      rw [Option.toList_none,List.append_nil]
      exact ⟨chain,last⟩
    | some value =>
      have other := ((edge_iff settled).mp found).1
      rw [Option.toList_some,← List.cons_append]
      refine ⟨List.isChain_append.mpr ⟨chain,List.isChain_singleton _,?_⟩,List.getLast?_concat⟩
      intro before member after next
      rw [last,Option.mem_def,Option.some.injEq] at member
      rw [List.head?_cons,Option.mem_def,Option.some.injEq] at next
      rw [← member,← next]
      exact other

/-- Times that do not decrease. -/
def Ordered (time : S → Nat) (samples : Nat → S) : Prop := ∀ k, time (samples k) ≤ time (samples (k + 1))

theorem ordered_le (ordered : Ordered time samples) {first last : Nat} (before : first ≤ last) :
    time (samples first) ≤ time (samples last) :=
  monotone_nat_of_le_succ ordered before

/-- A run shorter than the delay leaves no trace. -/
theorem edge_burst (settled : start.Settled) (ordered : Ordered time samples) {value : α} {first last k : Nat}
    (run : Run level samples value first last) (short : time (samples last) - time (samples first) < delay)
    (low : first ≤ k) (high : k ≤ last) : start.edge level time delay samples k = none := by
  cases found : start.edge level time delay samples k with
  | none => rfl
  | some other =>
    obtain ⟨-,first',inside,run',long,-⟩ := (edge_iff settled).mp found
    have same : other = value := (run'.held k (by omega) (Nat.le_refl k)).symm.trans (run.held k low high)
    rw [same] at run'
    have begun : Run level samples value first k := ⟨fun m above below => run.held m above (by omega),run.begins⟩
    obtain rfl := run'.first_eq begun (by omega) low
    have bound := ordered_le ordered high
    omega

/-- A level that lasts for the delay is the stable one. -/
theorem state_held (settled : start.Settled) (ordered : Ordered time samples) {value : α} {first last : Nat}
    (two : first < last) (held : ∀ m, first ≤ m → m ≤ last → level (samples m) = value)
    (long : delay ≤ time (samples last) - time (samples first)) :
    (start.state level time delay samples (last + 1)).stable = value := by
  have tracks := tracks_state level time delay samples settled last
  have same : (start.state level time delay samples last).candidate = value := by
    obtain ⟨n,rfl⟩ : ∃ n, last = n + 1 := ⟨last - 1,by omega⟩
    exact (tracks.last n rfl).trans (held n (by omega) (by omega))
  rw [state_stable]
  by_cases closed : (start.state level time delay samples last).Settled
  · cases found : start.edge level time delay samples last with
    | none => exact closed.symm.trans same
    | some other => exact (step_edge.mp found).2.1.symm.trans same
  · obtain ⟨first',inside,run,since,-⟩ := tracks.since closed
    have begun : first' ≤ first := by
      obtain ⟨n,rfl⟩ : ∃ n, last = n + 1 := ⟨last - 1,by omega⟩
      refine (run n rfl).first_le (fun m low high => ?_) (by omega)
      rw [same]
      exact held m low (by omega)
    have bound := ordered_le ordered begun
    have found : start.edge level time delay samples last = some value := by
      refine step_edge.mpr ⟨held last (Nat.le_of_lt two) (Nat.le_refl last),same,?_,by rw [since]; omega⟩
      rw [← same]
      exact Ne.symm closed
    rw [found]
    rfl

/-- The stable level only changes by an edge. -/
theorem exists_edge {value : α} {first last : Nat} (before : first ≤ last)
    (other : (start.state level time delay samples first).stable ≠ value)
    (reached : (start.state level time delay samples last).stable = value) :
    ∃ k, first ≤ k ∧ k < last ∧ start.edge level time delay samples k = some value := by
  induction last, before using Nat.le_induction with
  | base => exact absurd reached other
  | succ last before ih =>
    rw [state_stable] at reached
    cases found : start.edge level time delay samples last with
    | none =>
      rw [found] at reached
      obtain ⟨k,low,high,changed⟩ := ih reached
      exact ⟨k,low,by omega,changed⟩
    | some next =>
      rw [found] at reached
      exact ⟨last,before,Nat.lt_succ_self last,found.trans (congrArg some reached)⟩

end Debouncer

end UchiPulse
