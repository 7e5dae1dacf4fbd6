import UchiPulse.Lib.Frame

/-! Transactions: a body runs on a version of its own, which is committed as a whole or
given up. The rules say what a body leaves alone, what it writes, and what a transaction
that fails leaves behind. -/
namespace UchiPulse.Sql
variable {T ε α β : Type} {env : Env T ε} {self : Connection T}

/-! ### Inside a transaction -/

/-- The committed versions stay, and only a failure ends the transaction. -/
def Inside (env : Env T ε) (body : Session T ε α) : Prop :=
  ∀ self : Connection T, self.working.isSome →
    (body env self).2.committed = self.committed ∧ (body env self).2.past = self.past ∧
      ∀ value, (body env self).1 = .ok value → (body env self).2.working.isSome

theorem tick_inside (held : self.working.isSome) :
    self.tick env = { self with clock := self.clock + 1 } := by
  obtain ⟨committed,past,working,clock⟩ := self
  cases working with
  | none => cases held
  | some version => rfl

theorem fail_inside (self : Connection T) (fault : Fault ε) :
    ((self.fail fault : Except ε α × Connection T)).2.committed = self.committed ∧
      ((self.fail fault : Except ε α × Connection T)).2.past = self.past ∧
      ∀ value, ((self.fail fault : Except ε α × Connection T)).1 ≠ .ok value := by
  cases fault <;> simp [Connection.fail]

theorem inside_pure (value : α) : Inside env (pure value : Session T ε α) :=
  fun _ held => ⟨rfl,rfl,fun _ _ => held⟩

theorem inside_fail (error : ε) : Inside env (Program.fail error : Session T ε α) :=
  fun _ _ => ⟨rfl,rfl,fun _ ok => (by cases ok)⟩

theorem inside_failIf (condition : Prop) [Decidable condition] (error : ε) :
    Inside env (Program.failIf condition error : Session T ε Unit) := by
  unfold Program.failIf
  split
  · exact inside_fail error
  · exact inside_pure ()

theorem inside_bind {first : Session T ε α} {next : α → Session T ε β} (begins : Inside env first)
    (goes : ∀ value, Inside env (next value)) : Inside env (first >>= next) := by
  intro self held
  obtain ⟨committed,past,stays⟩ := begins self held
  rw [Program.bind_run]
  rcases outcome : first env self with ⟨error | value,between⟩
  · rw [outcome] at committed past
    exact ⟨committed,past,fun _ ok => (by cases ok)⟩
  · rw [outcome] at committed past stays
    obtain ⟨committed',past',stays'⟩ := goes value between (stays value rfl)
    exact ⟨committed'.trans committed,past'.trans past,stays'⟩

theorem inside_forM {items : List β} {each : β → Session T ε Unit}
    (all : ∀ item, Inside env (each item)) : Inside env (items.forM each) := by
  induction items with
  | nil => exact inside_pure ()
  | cons item items ih => exact inside_bind (all item) fun _ => ih

theorem inside_execute (change : T → Except ε (α × T)) : Inside env (execute change) := by
  intro self held
  obtain ⟨version,working⟩ := Option.isSome_iff_exists.mp held
  simp only [execute,tick_inside held]
  cases env.fault self.clock with
  | some fault =>
    obtain ⟨committed,past,failed⟩ :=
      fail_inside (α := α) { self with clock := self.clock + 1 } fault
    exact ⟨committed,past,fun value ok => absurd ok (failed value)⟩
  | none =>
    simp only [Connection.view,working,Option.getD_some]
    cases change version with
    | error error => exact ⟨rfl,rfl,fun _ ok => (by cases ok)⟩
    | ok result => simp [Connection.put]

theorem inside_onlyIf (condition : Prop) [Decidable condition] {first : Session T ε Unit}
    (inside : Inside env first) : Inside env (Program.onlyIf condition first) := by
  unfold Program.onlyIf
  split
  · exact inside
  · exact inside_pure ()

/-! ### What a transaction writes -/

/-- Whenever the body succeeds, the working version has moved along `write`. -/
def Leads (env : Env T ε) (body : Session T ε α) (write : T → T) : Prop :=
  ∀ (self : Connection T) version, self.working = some version →
    ∀ value done, body env self = (.ok value,done) → done.working = some (write version)

theorem leads_pure (value : α) : Leads env (pure value : Session T ε α) id := by
  intro self version working _ done ok
  cases ok
  exact working

theorem leads_failIf (condition : Prop) [Decidable condition] (error : ε) :
    Leads env (Program.failIf condition error : Session T ε Unit) id := by
  intro self version working value done ok
  obtain ⟨-,rfl⟩ := Program.failIf_eq_ok.mp ok
  exact working

theorem leads_congr {body : Session T ε α} {write write' : T → T} (leads : Leads env body write)
    (same : ∀ tables, write tables = write' tables) : Leads env body write' :=
  (funext same : write = write') ▸ leads

theorem leads_bind {first : Session T ε α} {next : α → Session T ε β} {write write' : T → T}
    (begins : Leads env first write) (goes : ∀ value, Leads env (next value) write') :
    Leads env (first >>= next) (write' ∘ write) := by
  intro self version working value done ok
  obtain ⟨middle,between,ran,rest⟩ := Program.bind_eq_ok.mp ok
  exact goes middle between _ (begins self version working middle between ran) value done rest

theorem leads_forM {items : List β} {each : β → Session T ε Unit} {write : β → T → T}
    (all : ∀ item, Leads env (each item) (write item)) :
    Leads env (items.forM each) fun tables => items.foldl (fun tables item => write item tables) tables := by
  induction items with
  | nil => exact leads_pure ()
  | cons item items ih => exact leads_bind (all item) fun _ => ih

/-- Items written one by one, to what they are written at once. -/
theorem leads_appends {items : List β} {each : β → Session T ε Unit} (write : List β → T → T)
    (all : ∀ item, Leads env (each item) (write [item])) (none : ∀ tables, write [] tables = tables)
    (more : ∀ item items tables, write items (write [item] tables) = write (item :: items) tables) :
    Leads env (items.forM each) (write items) := by
  refine leads_congr (leads_forM all) fun tables => ?_
  induction items generalizing tables with
  | nil => exact (none tables).symm
  | cons item items ih => rw [List.foldl_cons,ih,more]

theorem leads_onlyIf {condition : Prop} [Decidable condition] {first : Session T ε Unit}
    {write : T → T} (leads : Leads env first write) :
    Leads env (Program.onlyIf condition first) fun tables => if condition then write tables else tables := by
  unfold Program.onlyIf
  split
  · exact leads
  · exact leads_pure ()

theorem leads_execute {change : T → Except ε (α × T)} {write : T → T}
    (writes : ∀ tables value next, change tables = .ok (value,next) → next = write tables) :
    Leads env (execute change) write := by
  intro self version working value done ok
  have held : self.working.isSome := by rw [working]; rfl
  simp only [execute,tick_inside held] at ok
  cases faulted : env.fault self.clock with
  | some fault => cases fault <;> simp [faulted,Connection.fail] at ok
  | none =>
    simp only [faulted,Connection.view,working,Option.getD_some] at ok
    cases changed : change version with
    | error error => simp [changed] at ok
    | ok result =>
      obtain ⟨value',next⟩ := result
      simp only [changed,Connection.put,Prod.mk.injEq] at ok
      rw [← ok.2,writes version value' next changed]

theorem leads_always {change : T → Except ε (α × T)} {write : T → T} {value : α}
    (always : ∀ tables, change tables = .ok (value,write tables)) : Leads env (execute change) write :=
  leads_execute fun tables value next ok => by
    rw [always] at ok
    cases ok
    rfl

/-! ### What a failed transaction leaves behind -/

/-- The old tables are committed and read, and a new transaction can begin. -/
structure NoTrace (env : Env T ε) (before after : Connection T) : Prop where
  committed : after.committed = before.committed
  past : after.past = before.past
  closed : after.working = none
  reads : after.view = before.view
  begins : env.beginFault after.clock = none → (begin env after).1 = .ok ()

theorem noTrace_of_closed {before after : Connection T} (idle : before.working = none)
    (committed : after.committed = before.committed) (past : after.past = before.past)
    (closed : after.working = none) : NoTrace env before after where
  committed := committed
  past := past
  closed := closed
  reads := by simp [Connection.view,closed,idle,committed]
  begins free := by
    have ticked : (after.tick env).working = none := by
      simp only [Connection.tick,closed]
      rw [absorb_working,closed]
    simp only [begin,free,ticked]

/-- Every statement of the body succeeds, and `COMMIT` is refused as busy. -/
def CommitRefused (env : Env T ε) (body : Session T ε Unit) (self : Connection T) : Prop :=
  ∃ begun done error, begin env self = (.ok (),begun) ∧ body env begun = (.ok (),done) ∧
    env.commitFault done.clock = some (.refused error)

theorem begin_ok {begun : Connection T} (ok : begin env self = (.ok (),begun)) :
    begun = { self.tick env with working := some (self.tick env).committed } ∧ self.working = none := by
  simp only [begin] at ok
  cases faulted : env.beginFault self.clock with
  | some error => simp [faulted] at ok
  | none =>
    cases working : (self.tick env).working with
    | some version => simp [faulted,working] at ok
    | none =>
      rw [tick_working] at working
      simpa [faulted,tick_working,working,eq_comm] using ok

theorem begin_error {begun : Connection T} {error : ε} (alone : ∀ n, env.others n = [])
    (failed : begin env self = (.error error,begun)) :
    begun = { self with clock := self.clock + 1 } := by
  simp only [begin,tick_alone alone] at failed
  cases faulted : env.beginFault self.clock with
  | some error => simpa [faulted,eq_comm] using (Prod.ext_iff.mp failed).2
  | none =>
    cases working : self.working with
    | some version => simpa [faulted,working,eq_comm] using (Prod.ext_iff.mp failed).2
    | none => simp [faulted,working] at failed

/-- The `ROLLBACK` after a body that fails is not refused, unless the engine has ended the
transaction before. -/
def RollsBack (env : Env T ε) (body : Session T ε Unit) (self : Connection T) : Prop :=
  ∀ begun error done, begin env self = (.ok (),begun) → body env begun = (.error error,done) →
    ∀ fault, env.rollbackFault done.clock = some (.refused fault) → done.working = none

/-- Rolling back closes the transaction, if the engine has not done so before. -/
theorem rollback_closes (alone : ∀ n, env.others n = []) (self : Connection T)
    (rolls : ∀ fault, env.rollbackFault self.clock = some (.refused fault) → self.working = none) :
    (rollback env self).2 = { self with working := none,clock := self.clock + 1 } := by
  simp only [rollback,tick_alone alone]
  cases faulted : env.rollbackFault self.clock with
  | none =>
    obtain ⟨committed,past,working,clock⟩ := self
    cases working <;> rfl
  | some fault =>
    cases fault with
    | refused error => simp only [Connection.fail,rolls error faulted]
    | aborted error => rfl

/-- A transaction that fails leaves no trace, unless one was open before, or its `COMMIT`
was refused: nobody rolls that one back. -/
theorem transactionally_noTrace {body : Session T ε Unit} {after : Connection T} {error : ε}
    (alone : ∀ n, env.others n = []) (inside : Inside env body) (rolls : RollsBack env body self)
    (failed : transactionally body env self = (.error error,after)) :
    NoTrace env self after ↔ self.working = none ∧ ¬ CommitRefused env body self := by
  rcases Program.bind_eq_error.mp failed with notBegun | ⟨⟨⟩,begun,opened,rest⟩
  · have shape := begin_error alone notBegun
    constructor
    · intro trace
      refine ⟨?_,?_⟩
      · have closed := trace.closed
        rwa [shape] at closed
      · rintro ⟨begun,done,fault,opened,-⟩
        rw [notBegun] at opened
        cases opened
    · rintro ⟨idle,-⟩
      apply noTrace_of_closed idle <;> simp [shape,idle]
  obtain ⟨shape,idle⟩ := begin_ok opened
  rw [tick_alone alone] at shape
  have held : begun.working.isSome := by rw [shape]; rfl
  obtain ⟨committed,past,stays⟩ := inside begun held
  have committedBegun : begun.committed = self.committed := by rw [shape]
  have pastBegun : begun.past = self.past := by rw [shape]
  rw [Program.bind_run,Program.attempt_run] at rest
  rcases outcome : body env begun with ⟨fault | value,done⟩
  · simp only [outcome,Program.bind_run,Program.attempt_run,Program.fail_run,Prod.mk.injEq,
      rollback_closes alone done (rolls begun fault done opened outcome)] at rest committed past
    obtain ⟨-,rfl⟩ := rest
    refine iff_of_true ?_ ⟨idle,?_⟩
    · exact noTrace_of_closed idle (committed.trans committedBegun) (past.trans pastBegun) rfl
    · rintro ⟨begun',done',error,opened',succeeded,-⟩
      rw [opened] at opened'
      cases opened'
      rw [outcome] at succeeded
      cases succeeded
  · simp only [outcome] at rest committed past stays
    obtain ⟨version,working⟩ := Option.isSome_iff_exists.mp (stays () trivial)
    simp only [commit,tick_alone alone] at rest
    cases faulted : env.commitFault done.clock with
    | none => simp [faulted,working] at rest
    | some fault =>
      rw [faulted] at rest
      cases fault with
      | refused error =>
        simp only [Connection.fail,Prod.mk.injEq] at rest
        refine iff_of_false (fun trace => ?_) fun free => free.2 ⟨_,_,_,opened,outcome,faulted⟩
        have closed := trace.closed
        rw [← rest.2] at closed
        simp [working] at closed
      | aborted error =>
        simp only [Connection.fail,Prod.mk.injEq] at rest
        refine iff_of_true ?_ ⟨idle,?_⟩
        · apply noTrace_of_closed idle <;> rw [← rest.2]
          · exact committed.trans committedBegun
          · exact past.trans pastBegun
        · rintro ⟨begun',done',fault,opened',succeeded,refused⟩
          rw [opened] at opened'
          cases opened'
          rw [outcome] at succeeded
          cases succeeded
          rw [faulted] at refused
          cases refused

/-- A transaction that succeeds commits what its body has written. -/
theorem transactionally_ok {body : Session T ε Unit} {write : T → T} {after : Connection T}
    (leads : Leads env body write)
    (ok : transactionally body env self = (.ok (),after)) :
    self.working = none ∧ after.working = none ∧ after.committed = write (self.tick env).committed := by
  obtain ⟨⟨⟩,begun,opened,rest⟩ := Program.bind_eq_ok.mp ok
  obtain ⟨shape,idle⟩ := begin_ok opened
  have working : begun.working = some (self.tick env).committed := by rw [shape]
  rw [Program.bind_run,Program.attempt_run] at rest
  rcases outcome : body env begun with ⟨fault | value,done⟩
  · rw [outcome] at rest
    simp only [Program.bind_run,Program.attempt_run,Program.fail_run] at rest
    cases rest
  · have written := leads begun _ working value done outcome
    rw [outcome] at rest
    simp only [commit,tick_inside (show done.working.isSome by rw [written]; rfl)] at rest
    cases faulted : env.commitFault done.clock with
    | some fault =>
      rw [faulted] at rest
      cases fault <;> simp [Connection.fail] at rest
    | none =>
      simp only [faulted,written,Connection.commit,Prod.mk.injEq,true_and] at rest
      refine ⟨idle,?_,?_⟩ <;> rw [← rest]

/-- What is committed stays good, if what a successful body writes is. -/
theorem upholds_transactionally {good : T → Prop} (respects : Respects env good) {body : Session T ε Unit}
    (inside : Inside env body)
    (writes : ∀ after, transactionally body env self = (.ok (),after) → good after.committed) :
    Upholds good self (transactionally body env self).2 := by
  intro holds
  rcases ran : transactionally body env self with ⟨error | value,after⟩
  · rcases Program.bind_eq_error.mp ran with notBegun | ⟨⟨⟩,begun,opened,rest⟩
    · exact Program.moves_ran (upholds_begin respects) notBegun holds
    · have begunHolds : good begun.committed := Program.moves_ran (upholds_begin respects) opened holds
      have held : begun.working.isSome := by rw [(begin_ok opened).1]; rfl
      obtain ⟨committed,-,-⟩ := inside begun held
      rw [Program.bind_run,Program.attempt_run] at rest
      rcases outcome : body env begun with ⟨fault | value,done⟩
      · rw [outcome] at rest committed
        simp only [Program.bind_run,Program.attempt_run,Program.fail_run,Prod.mk.injEq] at rest
        rw [← rest.2]
        exact upholds_rollback respects done (committed ▸ begunHolds)
      · rw [outcome] at rest committed
        exact upholds_commit_error respects rest (committed ▸ begunHolds)
  · exact writes after ran

/-! ### On an idle connection -/

/-- On this connection a computation fails and leaves the tables, or it changes them in this
way. Either way no transaction is left open. -/
def CommitsAt {δ : Type} (env : Env T ε) (first : Program (Env T ε) (Connection T) δ α)
    (change : T → α → T → Prop) (self : Connection T) : Prop :=
  (first env self).2.working = none ∧
    match (first env self).1 with
    | .ok value => change self.committed value (first env self).2.committed
    | .error _ => (first env self).2.committed = self.committed

/-- So on every connection without a transaction. -/
def Commits {δ : Type} (env : Env T ε) (first : Program (Env T ε) (Connection T) δ α)
    (change : T → α → T → Prop) : Prop :=
  ∀ self : Connection T, self.working = none → CommitsAt env first change self

section
variable {δ : Type} {change : T → α → T → Prop}

section
variable {first : Program (Env T ε) (Connection T) δ α}

theorem CommitsAt.ok {value : α} {after : Connection T} (commits : CommitsAt env first change self)
    (ran : first env self = (.ok value,after)) :
    after.working = none ∧ change self.committed value after.committed := by
  rwa [CommitsAt,ran] at commits

theorem CommitsAt.error {error : δ} {after : Connection T} (commits : CommitsAt env first change self)
    (ran : first env self = (.error error,after)) : after.working = none ∧ after.committed = self.committed := by
  rwa [CommitsAt,ran] at commits

theorem CommitsAt.mono {change' : T → α → T → Prop} (commits : CommitsAt env first change self)
    (weaker : ∀ tables value after, change tables value after → change' tables value after) :
    CommitsAt env first change' self := by
  obtain ⟨closed,done⟩ := commits
  refine ⟨closed,?_⟩
  rcases ran : first env self with ⟨error | value,after⟩ <;> rw [ran] at done
  · exact done
  · exact weaker _ _ _ done

/-- What follows the change only returns a value. -/
theorem CommitsAt.map (result : α → β) (commits : CommitsAt env first change self) :
    CommitsAt env (do return result (← first)) (fun tables value after =>
      ∃ before, value = result before ∧ change tables before after) self := by
  obtain ⟨closed,done⟩ := commits
  rw [CommitsAt,Program.bind_run]
  rcases ran : first env self with ⟨error | value,after⟩ <;> rw [ran] at done closed
  · exact ⟨closed,done⟩
  · exact ⟨closed,value,rfl,done⟩

end

/-- The same computation with errors of a wider type. -/
theorem CommitsAt.zoom {first : Session T ε α} (wrap : ε → δ) (commits : CommitsAt env first change self) :
    CommitsAt env (Program.zoom id (fun connection _ => connection) wrap first) change self := by
  obtain ⟨closed,done⟩ := commits
  simp only [CommitsAt,Program.zoom,id_eq]
  rcases ran : first env self with ⟨error | value,after⟩ <;> rw [ran] at done closed <;> exact ⟨closed,done⟩

theorem commits_fail (error : δ) : Commits env (Program.fail error : Program (Env T ε) (Connection T) δ α) change :=
  fun _ idle => ⟨idle,rfl⟩

theorem commits_execute (alone : ∀ n, env.others n = []) (write : T → Except ε (α × T)) :
    Commits env (execute write) fun tables value after => write tables = .ok (value,after) := by
  intro self idle
  simp only [CommitsAt,execute,tick_alone alone,Connection.view,idle,Option.getD_none]
  cases env.fault self.clock with
  | some fault => cases fault <;> exact ⟨by simp [Connection.fail],rfl⟩
  | none =>
    cases written : write self.committed with
    | error error => exact ⟨rfl,rfl⟩
    | ok result => exact ⟨rfl,rfl⟩

/-- The statement that ends a transaction with this body is not refused. -/
structure Concludes (env : Env T ε) (body : Session T ε Unit) (connection : Connection T) : Prop where
  commits : ¬ CommitRefused env body connection
  rolls : RollsBack env body connection

theorem commitsAt_transactionally (alone : ∀ n, env.others n = []) {body : Session T ε Unit} {write : T → T}
    (ends : Concludes env body self) (idle : self.working = none) (inside : Inside env body) (leads : Leads env body write) :
    CommitsAt env (transactionally body) (fun tables _ after => after = write tables) self := by
  rw [CommitsAt]
  rcases ran : transactionally body env self with ⟨error | value,after⟩
  · have trace := (transactionally_noTrace alone inside ends.rolls ran).mpr ⟨idle,ends.commits⟩
    exact ⟨trace.closed,trace.committed⟩
  · obtain ⟨-,closed,committed⟩ := transactionally_ok leads ran
    rw [tick_alone alone] at committed
    exact ⟨closed,committed⟩

end

end UchiPulse.Sql
