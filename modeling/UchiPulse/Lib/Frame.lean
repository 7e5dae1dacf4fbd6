import UchiPulse.Lib.Sql

/-! What the statements of a connection leave alone, whatever fails and whatever other
connections commit, as long as these leave it alone too. -/
namespace UchiPulse.Sql
variable {T ε α β : Type} {env : Env T ε} {self : Connection T}

/-! ### Statements along a relation -/

section
variable {R : Connection T → Connection T → Prop} (trans : ∀ a b c, R a b → R b c → R a c)
  (ticks : ∀ self : Connection T, R self (self.tick env))
  (fails : ∀ (self : Connection T) (fault : Fault ε), R self ((self.fail fault : Except ε α × Connection T)).2)
include trans ticks fails

theorem moves_query_of (read : T → Except ε α) : Program.Moves env R (query read) := by
  intro self
  simp only [query]
  cases env.fault self.clock with
  | some fault => exact trans _ _ _ (ticks self) (fails _ fault)
  | none => exact ticks self

/-- For a write it remains to look at the connection it puts a new version into. -/
theorem moves_execute_of {change : T → Except ε (α × T)}
    (puts : ∀ self value next, change self.view = .ok (value,next) → R self (self.put next)) :
    Program.Moves env R (execute change) := by
  intro self
  simp only [execute]
  cases env.fault self.clock with
  | some fault => exact trans _ _ _ (ticks self) (fails _ fault)
  | none =>
    simp only
    cases changed : change (self.tick env).view with
    | error error => exact ticks self
    | ok result => exact trans _ _ _ (ticks self) (puts _ _ _ changed)

end

/-! ### What a connection leaves alone outside a transaction -/

/-- Other connections leave a part of the tables as it is. -/
def Stable {γ : Type} (env : Env T ε) (part : T → γ) : Prop :=
  ∀ n, ∀ change ∈ env.others n, ∀ tables, part (change tables) = part tables

/-- Without a transaction, this connection stays without one and leaves the part. -/
def Unmoved {γ : Type} (part : T → γ) (before after : Connection T) : Prop :=
  before.working = none → after.working = none ∧ part after.committed = part before.committed

section
variable {γ : Type} {part : T → γ}

theorem stable_of_alone (alone : ∀ n, env.others n = []) : Stable env part := by
  intro n change member
  rw [alone] at member
  cases member

theorem unmoved_refl (self : Connection T) : Unmoved part self self := fun idle => ⟨idle,rfl⟩

theorem unmoved_trans (a b c : Connection T) (first : Unmoved part a b) (second : Unmoved part b c) :
    Unmoved part a c := fun idle =>
  have ⟨idle',same⟩ := first idle
  have ⟨idle'',same'⟩ := second idle'
  ⟨idle'',same'.trans same⟩

theorem absorb_part (changes : List (T → T))
    (keeps : ∀ change ∈ changes, ∀ tables, part (change tables) = part tables) :
    part (self.absorb changes).committed = part self.committed := by
  induction changes generalizing self with
  | nil => rfl
  | cons change changes ih =>
    have first := keeps change (by simp) self.committed
    have rest : part ((self.commit (change self.committed)).absorb changes).committed =
        part (change self.committed) := ih fun change member => keeps change (by simp [member])
    exact rest.trans first

theorem unmoved_tick (stable : Stable env part) (self : Connection T) :
    Unmoved part self (self.tick env) := by
  intro idle
  simp only [Connection.tick,idle]
  exact ⟨(absorb_working _).trans idle,absorb_part _ (stable self.clock)⟩

theorem unmoved_ticks (stable : Stable env part) (n : Nat) (self : Connection T) :
    Unmoved part self (self.ticks env n) := by
  induction n generalizing self with
  | zero => exact unmoved_refl self
  | succ n ih => exact unmoved_trans _ _ _ (unmoved_tick stable self) (ih (self.tick env))

theorem unmoved_fail (self : Connection T) (fault : Fault ε) :
    Unmoved part self ((self.fail fault : Except ε α × Connection T)).2 := by
  intro idle
  cases fault <;> simp [Connection.fail,idle]

theorem moves_query (stable : Stable env part) (read : T → Except ε α) :
    Program.Moves env (Unmoved part) (query read) :=
  moves_query_of unmoved_trans (unmoved_tick stable) unmoved_fail read

theorem moves_execute (stable : Stable env part) {change : T → Except ε (α × T)}
    (keeps : ∀ tables value next, change tables = .ok (value,next) → part next = part tables) :
    Program.Moves env (Unmoved part) (execute change) := by
  refine moves_execute_of unmoved_trans (unmoved_tick stable) unmoved_fail fun self value next changed => ?_
  intro idle
  have same := keeps _ _ _ changed
  simp only [Connection.view,idle,Option.getD_none] at same
  simp [Connection.put,idle,Connection.commit,same]

end

/-! ### What is found outside a transaction -/

/-- Whatever other connections do behind the mask, a computation finds what it reads or fails, and
leaves the masked tables as they are. -/
def Finds {δ : Type} (env : Env T ε) (mask : T → T) (first : Program (Env T ε) (Connection T) δ α)
    (read : T → Except δ α) : Prop :=
  (∀ tables, read tables = read (mask tables)) ∧ ∀ self : Connection T, self.working = none →
    ∃ outcome next, first env self = (outcome,next) ∧ next.working = none ∧
      mask next.committed = mask self.committed ∧
      (outcome = read self.committed ∨ ∃ error, outcome = .error error)

section
variable {δ : Type} {mask : T → T}

theorem finds_congr {first : Program (Env T ε) (Connection T) δ α} {read read' : T → Except δ α}
    (finds : Finds env mask first read) (same : ∀ tables, read tables = read' tables) : Finds env mask first read' :=
  (funext same : read = read') ▸ finds

theorem finds_pure (value : α) :
    Finds env mask (pure value : Program (Env T ε) (Connection T) δ α) fun _ => .ok value :=
  ⟨fun _ => rfl,fun self idle => ⟨.ok value,self,rfl,idle,rfl,.inl rfl⟩⟩

theorem finds_query (stable : Stable env mask) {read : T → Except ε α}
    (depends : ∀ tables, read tables = read (mask tables)) : Finds env mask (query read) read := by
  refine ⟨depends,fun self idle => ?_⟩
  obtain ⟨closed,same⟩ := moves_query stable read self idle
  refine ⟨(query read env self).1,(query read env self).2,rfl,closed,same,?_⟩
  obtain ⟨idle',same'⟩ := unmoved_tick stable self idle
  simp only [query]
  cases env.fault self.clock with
  | none =>
    left
    change read (self.tick env).view = _
    rw [Connection.view,idle',Option.getD_none,depends,same',← depends]
  | some fault => cases fault <;> exact .inr ⟨_,rfl⟩

theorem finds_bind {first : Program (Env T ε) (Connection T) δ α}
    {next : α → Program (Env T ε) (Connection T) δ β} {read : T → Except δ α}
    {read' : α → T → Except δ β} (begins : Finds env mask first read)
    (goes : ∀ value, Finds env mask (next value) (read' value)) :
    Finds env mask (first >>= next) fun tables => read tables >>= (read' · tables) := by
  constructor
  · intro tables
    change read tables >>= (read' · tables) = read (mask tables) >>= (read' · (mask tables))
    rw [begins.1 tables,show (read' · tables) = (read' · (mask tables)) from funext fun value => (goes value).1 tables]
  · intro self idle
    obtain ⟨outcome,between,ran,closed,same,found⟩ := begins.2 self idle
    rw [Program.bind_run,ran]
    cases outcome with
    | error error => exact ⟨_,between,rfl,closed,same,.inr ⟨error,rfl⟩⟩
    | ok value =>
      obtain ⟨outcome,after,ran,closed',same',found'⟩ := (goes value).2 between closed
      refine ⟨outcome,after,ran,closed',same'.trans same,found'.imp_left fun taken => ?_⟩
      rcases found with read_ok | ⟨error,failed⟩
      · change outcome = read self.committed >>= (read' · self.committed)
        rw [← read_ok,taken,(goes value).1,same,← (goes value).1]
        rfl
      · cases failed

/-- The same computation with errors of a wider type. -/
theorem finds_zoom {first : Session T ε α} {read : T → Except ε α} (wrap : ε → δ) (finds : Finds env mask first read) :
    Finds env mask (Program.zoom id (fun connection _ => connection) wrap first)
      fun tables => (read tables).mapError wrap := by
  refine ⟨fun tables => congrArg (Except.mapError wrap) (finds.1 tables),fun self idle => ?_⟩
  obtain ⟨outcome,next,ran,closed,same,found⟩ := finds.2 self idle
  refine ⟨outcome.mapError wrap,next,?_,closed,same,?_⟩
  · simp only [Program.zoom,id_eq,ran]
    cases outcome <;> rfl
  · rcases found with rfl | ⟨error,rfl⟩
    · exact .inl rfl
    · exact .inr ⟨wrap error,rfl⟩

theorem finds_mapM {each : β → Program (Env T ε) (Connection T) δ α} {read : β → T → Except δ α}
    (items : List β) (all : ∀ item, Finds env mask (each item) (read item)) :
    Finds env mask (items.mapM each) fun tables => items.mapM (read · tables) := by
  induction items with
  | nil => exact finds_pure []
  | cons item items ih =>
    simp only [List.mapM_cons]
    exact finds_bind (all item) fun value => finds_bind ih fun values => finds_pure (value :: values)

end

/-! ### What a connection leaves alone anywhere -/

/-- The part has this value in every version the connection can still show. -/
def Holds {γ : Type} (part : T → γ) (value : γ) (self : Connection T) : Prop :=
  part self.committed = value ∧ ∀ version ∈ self.working, part version = value

def Kept {γ : Type} (part : T → γ) (before after : Connection T) : Prop :=
  ∀ value, Holds part value before → Holds part value after

section
variable {γ : Type} {part : T → γ}

theorem kept_refl (self : Connection T) : Kept part self self := fun _ => id

theorem kept_trans (a b c : Connection T) (first : Kept part a b) (second : Kept part b c) :
    Kept part a c := fun value holds => second value (first value holds)

theorem kept_tick (stable : Stable env part) (self : Connection T) : Kept part self (self.tick env) := by
  rintro value ⟨committed,held⟩
  obtain ⟨version,past,working,clock⟩ := self
  cases working with
  | none =>
    refine ⟨(absorb_part _ (stable clock)).trans committed,?_⟩
    simp [Connection.tick,absorb_working]
  | some version => exact ⟨committed,held⟩

theorem kept_fail (self : Connection T) (fault : Fault ε) :
    Kept part self ((self.fail fault : Except ε α × Connection T)).2 := by
  rintro value ⟨committed,working⟩
  cases fault with
  | refused error => exact ⟨committed,working⟩
  | aborted error => exact ⟨committed,by simp [Connection.fail]⟩

theorem keeps_query (stable : Stable env part) (read : T → Except ε α) :
    Program.Moves env (Kept part) (query read) :=
  moves_query_of kept_trans (kept_tick stable) kept_fail read

theorem keeps_execute (stable : Stable env part) {change : T → Except ε (α × T)}
    (keeps : ∀ tables value next, change tables = .ok (value,next) → part next = part tables) :
    Program.Moves env (Kept part) (execute change) := by
  refine moves_execute_of kept_trans (kept_tick stable) kept_fail fun self result next changed => ?_
  have same := keeps _ _ _ changed
  rintro value ⟨committed,working⟩
  cases held : self.working with
  | none =>
    simp only [Connection.view,held,Option.getD_none] at same
    simp [Connection.put,held,Connection.commit,Holds,same,committed]
  | some version =>
    simp only [Connection.view,held,Option.getD_some] at same
    simp [Connection.put,held,Holds,same,committed,working version held]

theorem keeps_begin (stable : Stable env part) : Program.Moves env (Kept part) begin := by
  intro self
  refine kept_trans _ _ _ (kept_tick stable self) ?_
  simp only [begin]
  cases env.beginFault self.clock with
  | some error => exact kept_refl _
  | none =>
    simp only
    cases (self.tick env).working with
    | some version => exact kept_refl _
    | none =>
      rintro value ⟨committed,-⟩
      exact ⟨committed,by simpa using committed⟩

theorem keeps_commit (stable : Stable env part) : Program.Moves env (Kept part) commit := by
  intro self
  refine kept_trans _ _ _ (kept_tick stable self) ?_
  simp only [commit]
  cases env.commitFault self.clock with
  | some fault => exact kept_fail _ fault
  | none =>
    simp only
    cases held : (self.tick env).working with
    | none => exact kept_refl _
    | some version =>
      rintro value ⟨-,working⟩
      exact ⟨working version held,by simp⟩

theorem keeps_rollback (stable : Stable env part) : Program.Moves env (Kept part) rollback := by
  intro self
  refine kept_trans _ _ _ (kept_tick stable self) ?_
  simp only [rollback]
  cases env.rollbackFault self.clock with
  | some fault => exact kept_fail _ fault
  | none =>
    simp only
    cases (self.tick env).working with
    | none => exact kept_refl _
    | some version =>
      rintro value ⟨committed,-⟩
      exact ⟨committed,by simp⟩

theorem keeps_transactionally (stable : Stable env part) {body : Session T ε Unit}
    (keeps : Program.Moves env (Kept part) body) :
    Program.Moves env (Kept part) (transactionally body) := by
  refine Program.moves_bind kept_trans (keeps_begin stable) fun _ => ?_
  refine Program.moves_bind kept_trans (Program.moves_attempt keeps) fun outcome => ?_
  cases outcome with
  | ok value => exact keeps_commit stable
  | error error =>
    exact Program.moves_bind kept_trans (Program.moves_attempt (keeps_rollback stable)) fun _ =>
      Program.moves_fail kept_refl error

end

/-! ### What stays true of the committed tables -/

/-- Other connections keep good tables good. -/
def Respects (env : Env T ε) (good : T → Prop) : Prop :=
  ∀ n, ∀ change ∈ env.others n, ∀ tables, good tables → good (change tables)

def Upholds (good : T → Prop) (before after : Connection T) : Prop :=
  good before.committed → good after.committed

section
variable {good : T → Prop}

theorem upholds_refl (self : Connection T) : Upholds good self self := id

theorem upholds_trans (a b c : Connection T) (first : Upholds good a b) (second : Upholds good b c) :
    Upholds good a c := fun holds => second (first holds)

theorem absorb_good (changes : List (T → T))
    (keeps : ∀ change ∈ changes, ∀ tables, good tables → good (change tables)) (holds : good self.committed) :
    good (self.absorb changes).committed := by
  induction changes generalizing self with
  | nil => exact holds
  | cons change changes ih =>
    obtain ⟨first,later⟩ := List.forall_mem_cons.mp keeps
    have next : good (self.commit (change self.committed)).committed := first _ holds
    exact ih later next

theorem upholds_tick (respects : Respects env good) (self : Connection T) :
    Upholds good self (self.tick env) := by
  intro holds
  cases held : self.working with
  | none =>
    simp only [Connection.tick,held]
    exact absorb_good _ (respects self.clock) holds
  | some version =>
    simp only [Connection.tick,held]
    exact holds

theorem upholds_fail (self : Connection T) (fault : Fault ε) :
    Upholds good self ((self.fail fault : Except ε α × Connection T)).2 := by
  cases fault <;> exact id

theorem upholds_query (respects : Respects env good) (read : T → Except ε α) :
    Program.Moves env (Upholds good) (query read) :=
  moves_query_of upholds_trans (upholds_tick respects) upholds_fail read

theorem upholds_execute (respects : Respects env good) {change : T → Except ε (α × T)}
    (keeps : ∀ tables value next, change tables = .ok (value,next) → good tables → good next) :
    Program.Moves env (Upholds good) (execute change) := by
  refine moves_execute_of upholds_trans (upholds_tick respects) upholds_fail fun self value next changed holds => ?_
  cases held : self.working with
  | none =>
    simp only [Connection.view,held,Option.getD_none] at changed
    simp only [Connection.put,held]
    exact keeps _ _ _ changed holds
  | some version =>
    simp only [Connection.put,held]
    exact holds

theorem upholds_begin (respects : Respects env good) : Program.Moves env (Upholds good) begin := by
  intro self
  refine upholds_trans _ _ _ (upholds_tick respects self) ?_
  simp only [begin]
  cases env.beginFault self.clock with
  | some error => exact upholds_refl _
  | none => cases (self.tick env).working <;> exact id

theorem upholds_rollback (respects : Respects env good) : Program.Moves env (Upholds good) rollback := by
  intro self
  refine upholds_trans _ _ _ (upholds_tick respects self) ?_
  simp only [rollback]
  cases env.rollbackFault self.clock with
  | some fault => exact upholds_fail _ fault
  | none => cases (self.tick env).working <;> exact id

/-- A `COMMIT` that fails commits nothing. -/
theorem upholds_commit_error (respects : Respects env good) {error : ε} {after : Connection T}
    (failed : commit env self = (.error error,after)) : Upholds good self after := by
  refine upholds_trans _ _ _ (upholds_tick respects self) ?_
  simp only [commit] at failed
  cases faulted : env.commitFault self.clock with
  | some fault =>
    have kept : after.committed = (self.tick env).committed := by
      cases fault <;> simp only [faulted,Connection.fail,Prod.mk.injEq] at failed <;> rw [← failed.2]
    intro holds
    rwa [kept]
  | none =>
    simp only [faulted] at failed
    cases working : (self.tick env).working with
    | none =>
      simp only [working,Prod.mk.injEq] at failed
      rw [← failed.2]
      exact upholds_refl _
    | some version => simp [working] at failed

end

/-! ### What stays true of every version -/

/-- Every version there ever was is good, and so is the one a transaction works on. -/
structure Sound (good : T → Prop) (connection : Connection T) : Prop where
  versions : ∀ version ∈ connection.versions, good version
  working : ∀ version ∈ connection.working, good version

def Preserves (good : T → Prop) (before after : Connection T) : Prop := Sound good before → Sound good after

section
variable {good : T → Prop}

theorem preserves_refl (self : Connection T) : Preserves good self self := id

theorem preserves_trans (a b c : Connection T) (first : Preserves good a b) (second : Preserves good b c) :
    Preserves good a c := fun sound => second (first sound)

theorem Sound.committed (sound : Sound good self) : good self.committed :=
  sound.versions self.committed (List.mem_cons_self)

theorem Sound.view (sound : Sound good self) : good self.view := by
  unfold Connection.view
  cases held : self.working with
  | none => exact sound.committed
  | some version => exact sound.working version held

theorem sound_opened {tables : T} (holds : good tables) : Sound good (.opened tables) where
  versions _ among := List.mem_singleton.mp among ▸ holds
  working := nofun

/-- A connection that just lost its transaction. -/
theorem Sound.closed (sound : Sound good self) : Sound good { self with working := none } where
  versions := sound.versions
  working := nofun

theorem Sound.commit (sound : Sound good self) {version : T} (holds : good version) :
    Sound good (self.commit version) where
  versions := List.forall_mem_cons.mpr ⟨holds,sound.versions⟩
  working := sound.working

theorem sound_absorb {changes : List (T → T)}
    (keeps : ∀ change ∈ changes, ∀ tables, good tables → good (change tables)) (sound : Sound good self) :
    Sound good (self.absorb changes) := by
  induction changes generalizing self with
  | nil => exact sound
  | cons change changes ih =>
    obtain ⟨first,later⟩ := List.forall_mem_cons.mp keeps
    exact ih later (sound.commit (first _ sound.committed))

theorem preserves_tick (respects : Respects env good) (self : Connection T) : Preserves good self (self.tick env) := by
  intro sound
  unfold Connection.tick
  split
  · have absorbed := sound_absorb (respects self.clock) sound
    exact ⟨absorbed.versions,absorbed.working⟩
  · exact ⟨sound.versions,sound.working⟩

theorem preserves_fail (self : Connection T) (fault : Fault ε) :
    Preserves good self ((self.fail fault : Except ε α × Connection T)).2 := by
  intro sound
  cases fault with
  | refused error => exact sound
  | aborted error => exact sound.closed

theorem preserves_query (respects : Respects env good) (read : T → Except ε α) :
    Program.Moves env (Preserves good) (query read) :=
  moves_query_of preserves_trans (preserves_tick respects) preserves_fail read

/-- A statement that makes a good version of a good one. -/
theorem preserves_execute (respects : Respects env good) {change : T → Except ε (α × T)}
    (keeps : ∀ tables value next, change tables = .ok (value,next) → good tables → good next) :
    Program.Moves env (Preserves good) (execute change) := by
  refine moves_execute_of preserves_trans (preserves_tick respects) preserves_fail
    fun self value next changed sound => ?_
  have holds := keeps _ _ _ changed sound.view
  unfold Connection.put
  split
  · exact sound.commit holds
  · refine ⟨sound.versions,?_⟩
    rintro _ ⟨⟩
    exact holds

theorem preserves_begin (respects : Respects env good) : Program.Moves env (Preserves good) begin := by
  intro self
  refine preserves_trans _ _ _ (preserves_tick respects self) ?_
  simp only [begin]
  cases env.beginFault self.clock with
  | some error => exact preserves_refl _
  | none =>
    cases (self.tick env).working with
    | some version => exact preserves_refl _
    | none =>
      refine fun sound => ⟨sound.versions,?_⟩
      rintro _ ⟨⟩
      exact sound.committed

theorem preserves_commit (respects : Respects env good) : Program.Moves env (Preserves good) commit := by
  intro self
  refine preserves_trans _ _ _ (preserves_tick respects self) ?_
  simp only [commit]
  cases env.commitFault self.clock with
  | some fault => exact preserves_fail _ fault
  | none =>
    cases held : (self.tick env).working with
    | none => exact preserves_refl _
    | some version => exact fun sound => (sound.commit (sound.working version held)).closed

theorem preserves_rollback (respects : Respects env good) : Program.Moves env (Preserves good) rollback := by
  intro self
  refine preserves_trans _ _ _ (preserves_tick respects self) ?_
  simp only [rollback]
  cases env.rollbackFault self.clock with
  | some fault => exact preserves_fail _ fault
  | none =>
    cases (self.tick env).working with
    | none => exact preserves_refl _
    | some version => exact fun sound => sound.closed

end

/-! ### Transactions along a relation -/

theorem moves_transactionally_of {R : Connection T → Connection T → Prop} (refl : ∀ self, R self self)
    (trans : ∀ a b c, R a b → R b c → R a c) (begins : Program.Moves env R begin)
    (commits : Program.Moves env R commit) (rolls : Program.Moves env R rollback) {body : Session T ε Unit}
    (moves : Program.Moves env R body) : Program.Moves env R (transactionally body) := by
  refine Program.moves_bind trans begins fun _ => ?_
  refine Program.moves_bind trans (Program.moves_attempt moves) fun outcome => ?_
  cases outcome with
  | ok value => exact commits
  | error error =>
    exact Program.moves_bind trans (Program.moves_attempt rolls) fun _ => Program.moves_fail refl error

end UchiPulse.Sql
