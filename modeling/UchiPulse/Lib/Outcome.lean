import UchiPulse.Lib.Transaction

/-! How a transaction ends when the store itself does not fail. Then every statement succeeds
or fails by what it finds, and so does the body as a whole. -/
namespace UchiPulse.Sql
variable {T ε α β : Type} {env : Env T ε}

/-- No statement is refused by the engine. Other connections may do what they want. -/
structure Faultless (env : Env T ε) : Prop where
  fault : ∀ n, env.fault n = none
  beginFault : ∀ n, env.beginFault n = none
  commitFault : ∀ n, env.commitFault n = none

theorem faultless_quiet (nested inactive : ε) : Faultless (Env.quiet nested inactive : Env T ε) :=
  ⟨fun _ => rfl,fun _ => rfl,fun _ => rfl⟩

/-- How a body ends that works on this version. -/
def Ends (env : Env T ε) (body : Session T ε α) (version : T) (outcome : Except ε α) : Prop :=
  ∀ self : Connection T, self.working = some version → (body env self).1 = outcome

variable {version : T}

theorem ends_pure (value : α) : Ends env (pure value : Session T ε α) version (.ok value) :=
  fun _ _ => rfl

theorem ends_bind {first : Session T ε α} {next : α → Session T ε β} {write : T → T} {value : α}
    {outcome : Except ε β} (leads : Leads env first write) (begins : Ends env first version (.ok value))
    (goes : Ends env (next value) (write version) outcome) : Ends env (first >>= next) version outcome := by
  intro self working
  have ran := Program.result_eq (begins self working)
  rw [Program.bind_run,ran]
  exact goes _ (leads self version working value _ ran)

theorem ends_bind_error {first : Session T ε α} {next : α → Session T ε β} {error : ε}
    (fails : Ends env first version (.error error)) : Ends env (first >>= next) version (.error error) := by
  intro self working
  rw [Program.bind_run,Program.result_eq (fails self working)]

theorem ends_execute (faultless : Faultless env) (version : T) (change : T → Except ε (α × T)) :
    Ends env (execute change) version ((change version).map Prod.fst) := by
  intro self working
  have held : self.working.isSome := by rw [working]; rfl
  simp only [execute,tick_inside held,faultless.fault,Connection.view,working,Option.getD_some]
  cases change version <;> rfl

theorem ends_onlyIf {condition : Prop} [Decidable condition] {first : Session T ε Unit}
    (ends : condition → Ends env first version (.ok ())) :
    Ends env (Program.onlyIf condition first) version (.ok ()) := by
  unfold Program.onlyIf
  split
  next holds => exact ends holds
  next => exact ends_pure ()

/-- Items that are written one by one, up to the place where the loop ends. -/
theorem ends_forM {front back : List β} {each : β → Session T ε Unit} {outcome : Except ε Unit} (write : List β → T → T)
    (leads : ∀ item, Leads env (each item) (write [item])) (none : ∀ version, write [] version = version)
    (more : ∀ item items version, write items (write [item] version) = write (item :: items) version)
    (passes : ∀ done item rest, front = done ++ item :: rest → Ends env (each item) (write done version) (.ok ()))
    (ends : Ends env (back.forM each) (write front version) outcome) :
    Ends env ((front ++ back).forM each) version outcome := by
  induction front generalizing version with
  | nil =>
    rw [none] at ends
    exact ends
  | cons item front ih =>
    refine ends_bind (leads item) (show Ends env (each item) version (.ok ()) from ?_)
      (ih (fun done other rest same => ?_) ?_)
    · have passed := passes [] item front rfl
      rwa [none] at passed
    · rw [more]
      exact passes (item :: done) other rest (congrArg (item :: ·) same)
    · rw [more]
      exact ends

/-- Every item is written. -/
theorem ends_forM_ok {items : List β} {each : β → Session T ε Unit} (write : List β → T → T)
    (leads : ∀ item, Leads env (each item) (write [item])) (none : ∀ version, write [] version = version)
    (more : ∀ item items version, write items (write [item] version) = write (item :: items) version)
    (passes : ∀ done item rest, items = done ++ item :: rest → Ends env (each item) (write done version) (.ok ())) :
    Ends env (items.forM each) version (.ok ()) := by
  have ends : Ends env ((items ++ []).forM each) version (.ok ()) :=
    ends_forM write leads none more passes (ends_pure ())
  rwa [List.append_nil] at ends

/-- The loop stops at an item that fails. -/
theorem ends_forM_error {front back : List β} {item : β} {each : β → Session T ε Unit} {error : ε}
    (write : List β → T → T) (leads : ∀ item, Leads env (each item) (write [item]))
    (none : ∀ version, write [] version = version)
    (more : ∀ item items version, write items (write [item] version) = write (item :: items) version)
    (passes : ∀ done item rest, front = done ++ item :: rest → Ends env (each item) (write done version) (.ok ()))
    (fails : Ends env (each item) (write front version) (.error error)) :
    Ends env ((front ++ item :: back).forM each) version (.error error) :=
  ends_forM write leads none more passes (ends_bind_error fails)

/-- A transaction ends as its body does. -/
theorem ends_transactionally (faultless : Faultless env) {body : Session T ε Unit} {outcome : Except ε Unit}
    {self : Connection T} (idle : self.working = none) (inside : Inside env body)
    (ends : Ends env body (self.tick env).committed outcome) : (transactionally body env self).1 = outcome := by
  have closed : (self.tick env).working = none := tick_working.trans idle
  have opened : begin env self = (.ok (),{ self.tick env with working := some (self.tick env).committed }) := by
    simp only [begin,faultless.beginFault,closed]
  obtain ⟨done,ran⟩ : ∃ done, body env { self.tick env with working := some (self.tick env).committed } =
      (outcome,done) := ⟨_,Program.result_eq (ends _ rfl)⟩
  obtain ⟨-,-,stays⟩ := inside { self.tick env with working := some (self.tick env).committed } rfl
  rw [ran] at stays
  rw [transactionally,Program.bind_run,opened]
  simp only [Program.bind_run,Program.attempt_run,ran]
  cases outcome with
  | error error => rfl
  | ok value =>
    have held : done.working.isSome := stays () rfl
    obtain ⟨version,working⟩ := Option.isSome_iff_exists.mp held
    simp only [commit,tick_inside held,faultless.commitFault,working]

/-! ### What a success tells about the version it began with -/

/-- A body that succeeds has found a condition fulfilled. -/
def Needs (env : Env T ε) (body : Session T ε α) (condition : T → Prop) : Prop :=
  ∀ (self : Connection T) version, self.working = some version →
    ∀ value done, body env self = (.ok value,done) → condition version

theorem needs_execute (change : T → Except ε (α × T)) :
    Needs env (execute change) fun version => ∃ value next, change version = .ok (value,next) := by
  intro self version working value done ok
  have held : self.working.isSome := by rw [working]; rfl
  simp only [execute,tick_inside held] at ok
  cases faulted : env.fault self.clock with
  | some fault => cases fault <;> simp [faulted,Connection.fail] at ok
  | none =>
    simp only [faulted,Connection.view,working,Option.getD_some] at ok
    cases changed : change version with
    | error error => simp [changed] at ok
    | ok result => exact ⟨result.1,result.2,rfl⟩

theorem needs_bind {first : Session T ε α} {next : α → Session T ε β} {write : T → T} {condition condition' : T → Prop}
    (begins : Needs env first condition) (leads : Leads env first write)
    (goes : ∀ value, Needs env (next value) condition') :
    Needs env (first >>= next) fun version => condition version ∧ condition' (write version) := by
  intro self version working value done ok
  obtain ⟨middle,between,ran,rest⟩ := Program.bind_eq_ok.mp ok
  exact ⟨begins self version working middle between ran,
    goes middle between _ (leads self version working middle between ran) value done rest⟩

/-- Each item is found fit behind those written before it. -/
theorem needs_forM {items : List β} {each : β → Session T ε Unit} {condition : β → T → Prop} (write : List β → T → T)
    (leads : ∀ item, Leads env (each item) (write [item])) (none : ∀ version, write [] version = version)
    (more : ∀ item items version, write items (write [item] version) = write (item :: items) version)
    (all : ∀ item, Needs env (each item) (condition item)) :
    Needs env (items.forM each) fun version =>
      ∀ front item back, items = front ++ item :: back → condition item (write front version) := by
  induction items with
  | nil =>
    intro self version working value done ok front item back split
    simp at split
  | cons first items ih =>
    intro self version working value done ok front item back split
    obtain ⟨fit,rest⟩ := needs_bind (all first) (leads first) (fun _ => ih) self version working value done ok
    cases front with
    | nil =>
      obtain ⟨rfl,-⟩ := List.cons.inj split
      rwa [none]
    | cons other front =>
      obtain ⟨rfl,later⟩ := List.cons.inj split
      rw [← more]
      exact rest front item back later

theorem needs_transactionally {body : Session T ε Unit} {condition : T → Prop} (needs : Needs env body condition)
    {self after : Connection T} (ok : transactionally body env self = (.ok (),after)) :
    condition (self.tick env).committed := by
  obtain ⟨⟨⟩,begun,opened,rest⟩ := Program.bind_eq_ok.mp ok
  have working : begun.working = some (self.tick env).committed := by rw [(begin_ok opened).1]
  rw [Program.bind_run,Program.attempt_run] at rest
  rcases ran : body env begun with ⟨error | ⟨⟩,done⟩
  · rw [ran] at rest
    simp only [Program.bind_run,Program.attempt_run,Program.fail_run] at rest
    cases rest
  · exact needs begun _ working () done ran

end UchiPulse.Sql
