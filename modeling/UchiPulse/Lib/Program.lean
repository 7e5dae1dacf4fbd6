import Mathlib.Data.List.Basic

/-! Computations that may fail, over an environment they read and a state that keeps
what was done to it before the failure. -/
namespace UchiPulse

/-- `ρ` is the environment, `σ` the state, `ε` the errors. -/
def Program (ρ σ ε α : Type) : Type := ρ → σ → Except ε α × σ

namespace Program
variable {ρ σ τ ε δ α β : Type}

instance : Monad (Program ρ σ ε) where
  pure value := fun _ state => (.ok value,state)
  bind first next := fun env state =>
    match first env state with
    | (.ok value,state) => next value env state
    | (.error error,state) => (.error error,state)

instance : LawfulMonad (Program ρ σ ε) := .mk' _
  (fun first => by
    funext env state
    change (first >>= fun value => pure (id value)) env state = _
    simp only [bind]
    rcases first env state with ⟨error | value,state⟩ <;> rfl)
  (fun _ _ => rfl)
  (fun first _ _ => by
    funext env state
    simp only [bind]
    rcases first env state with ⟨error | value,state⟩ <;> rfl)

def fail (error : ε) : Program ρ σ ε α := fun _ state => (.error error,state)

/-- An early return of an error. -/
def failIf (condition : Prop) [Decidable condition] (error : ε) : Program ρ σ ε Unit :=
  if condition then fail error else pure ()

/-- A step that is taken under a condition. -/
def onlyIf (condition : Prop) [Decidable condition] (first : Program ρ σ ε Unit) : Program ρ σ ε Unit :=
  if condition then first else pure ()

def get : Program ρ σ ε σ := fun _ state => (.ok state,state)
def modify (change : σ → σ) : Program ρ σ ε Unit := fun _ state => (.ok (),change state)

/-- The outcome as a value. -/
def attempt (first : Program ρ σ ε α) : Program ρ σ δ (Except ε α) := fun env state =>
  ((.ok (first env state).1),(first env state).2)

/-- Run on a part of the state, with errors of a wider type. -/
def zoom (view : σ → τ) (put : τ → σ → σ) (wrap : ε → δ) (first : Program ρ τ ε α) :
    Program ρ σ δ α := fun env state =>
  match first env (view state) with
  | (.ok value,part) => (.ok value,put part state)
  | (.error error,part) => (.error (wrap error),put part state)

/-- A result by its outcome. -/
theorem result_eq {result : Except ε α × σ} {outcome : Except ε α} (same : result.1 = outcome) :
    result = (outcome,result.2) :=
  Prod.ext same rfl

variable {env : ρ} {state last : σ}

@[simp] theorem pure_run (value : α) : (pure value : Program ρ σ ε α) env state = (.ok value,state) := rfl
@[simp] theorem fail_run (error : ε) : (fail error : Program ρ σ ε α) env state = (.error error,state) := rfl
@[simp] theorem get_run : (get : Program ρ σ ε σ) env state = (.ok state,state) := rfl
@[simp] theorem modify_run (change : σ → σ) :
    (modify change : Program ρ σ ε Unit) env state = (.ok (),change state) := rfl
@[simp] theorem attempt_run (first : Program ρ σ ε α) :
    (attempt first : Program ρ σ δ (Except ε α)) env state =
      (.ok (first env state).1,(first env state).2) := rfl

theorem bind_run (first : Program ρ σ ε α) (next : α → Program ρ σ ε β) :
    (first >>= next) env state =
      match first env state with
      | (.ok value,state) => next value env state
      | (.error error,state) => (.error error,state) := rfl

theorem failIf_run (condition : Prop) [Decidable condition] (error : ε) :
    (failIf condition error : Program ρ σ ε Unit) env state =
      if condition then (.error error,state) else (.ok (),state) := by
  unfold failIf
  split <;> rfl

theorem bind_eq_ok {first : Program ρ σ ε α} {next : α → Program ρ σ ε β} {value : β} :
    (first >>= next) env state = (.ok value,last) ↔
      ∃ middle between, first env state = (.ok middle,between) ∧
        next middle env between = (.ok value,last) := by
  rw [bind_run]
  rcases first env state with ⟨error | middle,between⟩ <;> simp

theorem bind_eq_error {first : Program ρ σ ε α} {next : α → Program ρ σ ε β} {error : ε} :
    (first >>= next) env state = (.error error,last) ↔
      first env state = (.error error,last) ∨
        ∃ middle between, first env state = (.ok middle,between) ∧
          next middle env between = (.error error,last) := by
  rw [bind_run]
  rcases first env state with ⟨fault | middle,between⟩ <;> simp

theorem failIf_eq_ok {condition : Prop} [Decidable condition] {error : ε} {value : Unit} :
    (failIf condition error : Program ρ σ ε Unit) env state = (.ok value,last) ↔
      ¬ condition ∧ last = state := by
  rw [failIf_run]
  split <;> simp_all [eq_comm]

/-! ### What a computation does to the state -/

/-- Whatever the outcome, the state moves along `R`. -/
def Moves (env : ρ) (R : σ → σ → Prop) (first : Program ρ σ ε α) : Prop :=
  ∀ state, R state (first env state).2

variable {R : σ → σ → Prop}

theorem moves_ran {first : Program ρ σ ε α} {outcome : Except ε α} (moves : Moves env R first)
    (ran : first env state = (outcome,last)) : R state last := by
  have moved := moves state
  rwa [ran] at moved

theorem moves_pure (refl : ∀ state, R state state) (value : α) :
    Moves env R (pure value : Program ρ σ ε α) := refl

theorem moves_fail (refl : ∀ state, R state state) (error : ε) :
    Moves env R (fail error : Program ρ σ ε α) := refl

theorem moves_failIf (refl : ∀ state, R state state) (condition : Prop) [Decidable condition]
    (error : ε) : Moves env R (failIf condition error : Program ρ σ ε Unit) := by
  intro state
  rw [failIf_run]
  split <;> exact refl state

theorem moves_bind (trans : ∀ a b c, R a b → R b c → R a c) {first : Program ρ σ ε α}
    {next : α → Program ρ σ ε β} (begins : Moves env R first) (goes : ∀ value, Moves env R (next value)) :
    Moves env R (first >>= next) := by
  intro state
  have step := begins state
  rw [bind_run]
  rcases outcome : first env state with ⟨error | value,between⟩
  · rwa [outcome] at step
  · rw [outcome] at step
    exact trans _ _ _ step (goes value between)

theorem moves_attempt {first : Program ρ σ ε α} (inner : Moves env R first) :
    Moves env R (attempt first : Program ρ σ δ (Except ε α)) := inner

theorem moves_onlyIf (refl : ∀ state, R state state) (condition : Prop) [Decidable condition]
    {first : Program ρ σ ε Unit} (inner : Moves env R first) : Moves env R (onlyIf condition first) := by
  unfold onlyIf
  split
  · exact inner
  · exact refl

theorem moves_forM (refl : ∀ state, R state state) (trans : ∀ a b c, R a b → R b c → R a c)
    {items : List β} {each : β → Program ρ σ ε Unit} (all : ∀ item, Moves env R (each item)) :
    Moves env R (items.forM each) := by
  induction items with
  | nil => exact refl
  | cons item items ih => exact moves_bind trans (all item) fun _ => ih

/-- The same, with what is known of the items. -/
theorem moves_forM_mem (refl : ∀ state, R state state) (trans : ∀ a b c, R a b → R b c → R a c)
    {items : List β} {each : β → Program ρ σ ε Unit} (all : ∀ item ∈ items, Moves env R (each item)) :
    Moves env R (items.forM each) := by
  induction items with
  | nil => exact refl
  | cons item items ih =>
    obtain ⟨first,later⟩ := List.forall_mem_cons.mp all
    exact moves_bind trans first fun _ => ih later

theorem moves_mapM (refl : ∀ state, R state state) (trans : ∀ a b c, R a b → R b c → R a c)
    {items : List β} {each : β → Program ρ σ ε α} (all : ∀ item, Moves env R (each item)) :
    Moves env R (items.mapM each) := by
  induction items with
  | nil => exact refl
  | cons item items ih =>
    rw [List.mapM_cons]
    exact moves_bind trans (all item) fun _ => moves_bind trans ih fun _ => refl

theorem moves_zoom {S : τ → τ → Prop} {view : σ → τ} {put : τ → σ → σ} {wrap : ε → δ}
    {first : Program ρ τ ε α} (inner : Moves env S first)
    (lift : ∀ state part, S (view state) part → R state (put part state)) :
    Moves env R (zoom view put wrap first) := by
  intro state
  have step := inner (view state)
  simp only [zoom]
  rcases outcome : first env (view state) with ⟨error | value,part⟩ <;>
    rw [outcome] at step <;> exact lift _ _ step

/-! ### A computation over a smaller state -/

/-- `second` does to what `forget` leaves of the state what `first` does to all of it. -/
def Follows (forget : σ → τ) (first : Program ρ σ ε α) (second : Program ρ τ ε α) : Prop :=
  ∀ env state, second env (forget state) = ((first env state).1,forget (first env state).2)

theorem follows_self (first : Program ρ σ ε α) : Follows id first first := fun _ _ => rfl

section
variable {forget : σ → τ}

theorem follows_pure (value : α) :
    Follows forget (pure value : Program ρ σ ε α) (pure value) := fun _ _ => rfl

theorem follows_fail (error : ε) :
    Follows forget (fail error : Program ρ σ ε α) (fail error) := fun _ _ => rfl

theorem follows_failIf (condition : Prop) [Decidable condition] (error : ε) :
    Follows forget (failIf condition error : Program ρ σ ε Unit) (failIf condition error) := by
  by_cases holds : condition
  · simp only [failIf,if_pos holds]
    exact follows_fail error
  · simp only [failIf,if_neg holds]
    exact follows_pure ()

theorem follows_modify {change : σ → σ} {change' : τ → τ}
    (same : ∀ state, change' (forget state) = forget (change state)) :
    Follows forget (modify change : Program ρ σ ε Unit) (modify change') := by
  intro env state
  rw [modify_run,same]
  rfl

theorem follows_bind {first : Program ρ σ ε α} {second : Program ρ τ ε α} {next : α → Program ρ σ ε β}
    {next' : α → Program ρ τ ε β} (begins : Follows forget first second)
    (goes : ∀ value, Follows forget (next value) (next' value)) :
    Follows forget (first >>= next) (second >>= next') := by
  intro env state
  rw [bind_run,bind_run,begins env state]
  rcases first env state with ⟨error | value,between⟩
  · rfl
  · exact goes value env between

/-- A read of the state, when what follows uses no more of it than what is left. -/
theorem follows_get {next : σ → Program ρ σ ε β} {next' : τ → Program ρ τ ε β}
    (goes : ∀ state, Follows forget (next state) (next' (forget state))) :
    Follows forget (get >>= next) (get >>= next') := fun env state => goes state env state

theorem follows_attempt {first : Program ρ σ ε α} {second : Program ρ τ ε α}
    (inner : Follows forget first second) :
    Follows forget (attempt first : Program ρ σ δ (Except ε α)) (attempt second) := by
  intro env state
  rw [attempt_run,inner env state]
  rfl

theorem follows_zoom {σ' τ' : Type} {forget' : σ' → τ'} {view : σ → σ'} {put : σ' → σ → σ} {view' : τ → τ'}
    {put' : τ' → τ → τ} {wrap : ε → δ} {first : Program ρ σ' ε α} {second : Program ρ τ' ε α}
    (inner : Follows forget' first second) (views : ∀ state, view' (forget state) = forget' (view state))
    (puts : ∀ part state, put' (forget' part) (forget state) = forget (put part state)) :
    Follows forget (zoom view put wrap first) (zoom view' put' wrap second) := by
  intro env state
  simp only [zoom]
  rw [views,inner env (view state)]
  rcases first env (view state) with ⟨error | value,part⟩ <;> rw [← puts]

end

end Program

end UchiPulse
