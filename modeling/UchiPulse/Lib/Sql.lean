import UchiPulse.Lib.Program

/-! One connection of a transactional store. Statements are atomic and may fail; other
connections commit in between, but not while this one holds a transaction, which begins
with the write lock. -/
namespace UchiPulse.Sql

/-- A failing statement leaves the transaction open, or makes the engine roll it back. -/
inductive Fault (ε : Type) where
  | refused (error : ε)
  | aborted (error : ε)
deriving DecidableEq

/-- What befalls the statements of a connection, by their number. -/
structure Env (T ε : Type) where
  /-- Transactions other connections commit before the statement. -/
  others : Nat → List (T → T)
  fault : Nat → Option (Fault ε)
  /-- A transaction that does not begin leaves the connection as it is. -/
  beginFault : Nat → Option ε
  commitFault : Nat → Option (Fault ε)
  rollbackFault : Nat → Option (Fault ε)
  /-- A transaction is begun within a transaction. -/
  nested : ε
  /-- A transaction is ended while none is open. -/
  inactive : ε

/-- `past` holds the versions committed before, the latest first. -/
structure Connection (T : Type) where
  committed : T
  past : List T
  working : Option T
  clock : Nat

variable {T ε α β : Type}

namespace Connection

/-- What this connection reads. -/
def view (self : Connection T) : T := self.working.getD self.committed

def commit (self : Connection T) (version : T) : Connection T :=
  { self with committed := version,past := self.committed :: self.past }

/-- A statement outside a transaction is one of its own. -/
def put (self : Connection T) (version : T) : Connection T :=
  match self.working with
  | none => self.commit version
  | some _ => { self with working := some version }

/-- Every version committed so far. -/
def versions (self : Connection T) : List T := self.committed :: self.past

/-- Other connections commit one transaction after the other. -/
def absorb (self : Connection T) : List (T → T) → Connection T
  | [] => self
  | change :: changes => (self.commit (change self.committed)).absorb changes

/-- Up to the next statement. -/
def tick (self : Connection T) (env : Env T ε) : Connection T :=
  match self.working with
  | none => { self.absorb (env.others self.clock) with clock := self.clock + 1 }
  | some _ => { self with clock := self.clock + 1 }

/-- Over the next statements. -/
def ticks (self : Connection T) (env : Env T ε) : Nat → Connection T
  | 0 => self
  | n + 1 => (self.tick env).ticks env n

/-- The connection after a failing statement. -/
def fail (self : Connection T) : Fault ε → Except ε α × Connection T
  | .refused error => (.error error,self)
  | .aborted error => (.error error,{ self with working := none })

end Connection

/-- A computation over one connection. -/
abbrev Session (T ε α : Type) := Program (Env T ε) (Connection T) ε α

def query (read : T → Except ε α) : Session T ε α := fun env self =>
  let next := self.tick env
  match env.fault self.clock with
  | some fault => next.fail fault
  | none => (read next.view,next)

def execute (change : T → Except ε (α × T)) : Session T ε α := fun env self =>
  let next := self.tick env
  match env.fault self.clock with
  | some fault => next.fail fault
  | none =>
    match change next.view with
    | .error error => (.error error,next)
    | .ok (value,version) => (.ok value,next.put version)

/-- `BEGIN IMMEDIATE` -/
def begin : Session T ε Unit := fun env self =>
  let next := self.tick env
  match env.beginFault self.clock with
  | some error => (.error error,next)
  | none =>
    match next.working with
    | some _ => (.error env.nested,next)
    | none => (.ok (),{ next with working := some next.committed })

/-- `COMMIT` -/
def commit : Session T ε Unit := fun env self =>
  let next := self.tick env
  match env.commitFault self.clock with
  | some fault => next.fail fault
  | none =>
    match next.working with
    | none => (.error env.inactive,next)
    | some version => (.ok (),{ next.commit version with working := none })

/-- `ROLLBACK` -/
def rollback : Session T ε Unit := fun env self =>
  let next := self.tick env
  match env.rollbackFault self.clock with
  | some fault => next.fail fault
  | none =>
    match next.working with
    | none => (.error env.inactive,next)
    | some _ => (.ok (),{ next with working := none })

/-- A body between `BEGIN IMMEDIATE` and `COMMIT`, rolled back when it fails; whether the
rollback succeeds is not looked at. -/
def transactionally (body : Session T ε Unit) : Session T ε Unit := do
  begin
  match ← Program.attempt body with
  | .ok () => commit
  | .error error => do
    let _ ← Program.attempt (δ := ε) rollback
    Program.fail error

/-! ### An undisturbed connection -/

/-- No statement fails and nobody else commits. -/
structure Quiet (env : Env T ε) : Prop where
  others : ∀ n, env.others n = []
  fault : ∀ n, env.fault n = none
  beginFault : ∀ n, env.beginFault n = none
  commitFault : ∀ n, env.commitFault n = none
  rollbackFault : ∀ n, env.rollbackFault n = none

/-- The environment in which nothing happens. -/
def Env.quiet (nested inactive : ε) : Env T ε where
  others _ := []
  fault _ := none
  beginFault _ := none
  commitFault _ := none
  rollbackFault _ := none
  nested := nested
  inactive := inactive

theorem Env.quiet_quiet (nested inactive : ε) : Quiet (Env.quiet nested inactive : Env T ε) :=
  ⟨fun _ => rfl,fun _ => rfl,fun _ => rfl,fun _ => rfl,fun _ => rfl⟩

/-- A connection just opened on these tables. -/
def Connection.opened (tables : T) : Connection T where
  committed := tables
  past := []
  working := none
  clock := 0

variable {env : Env T ε} {self : Connection T}

theorem absorb_working (changes : List (T → T)) : (self.absorb changes).working = self.working := by
  induction changes generalizing self with
  | nil => rfl
  | cons change changes ih => exact ih

theorem tick_alone (alone : ∀ n, env.others n = []) :
    self.tick env = { self with clock := self.clock + 1 } := by
  obtain ⟨committed,past,working,clock⟩ := self
  cases working <;> simp [Connection.tick,Connection.absorb,alone]

theorem tick_working : (self.tick env).working = self.working := by
  obtain ⟨committed,past,working,clock⟩ := self
  cases working with
  | none => exact absorb_working _
  | some version => rfl

/-- Committed versions are remembered. -/
theorem versions_absorb (changes : List (T → T)) {version : T} (member : version ∈ self.versions) :
    version ∈ (self.absorb changes).versions := by
  induction changes generalizing self with
  | nil => exact member
  | cons change changes ih => exact ih (List.mem_cons_of_mem _ member)

theorem versions_tick {version : T} (member : version ∈ self.versions) :
    version ∈ (self.tick env).versions := by
  unfold Connection.tick
  split
  · exact versions_absorb _ member
  · exact member

theorem versions_ticks {version : T} (n : Nat) (member : version ∈ self.versions) :
    version ∈ (self.ticks env n).versions := by
  induction n generalizing self with
  | zero => exact member
  | succ n ih => exact ih (versions_tick member)

theorem query_ok {read : T → Except ε α} {value : α} {next : Connection T}
    (ok : query read env self = (.ok value,next)) : next = self.tick env ∧ read next.view = .ok value := by
  simp only [query] at ok
  cases faulted : env.fault self.clock with
  | some fault => cases fault <;> simp [faulted,Connection.fail] at ok
  | none =>
    rw [faulted] at ok
    obtain ⟨found,rfl⟩ := Prod.mk.inj ok
    exact ⟨rfl,found⟩

theorem query_quiet (quiet : Quiet env) (read : T → Except ε α) :
    query read env self = (read self.view,{ self with clock := self.clock + 1 }) := by
  simp only [query,tick_alone quiet.others,quiet.fault]
  rfl

section
variable {δ : Type}

/-- On an undisturbed connection a computation is a function of what it reads. -/
def Reads (env : Env T ε) (first : Program (Env T ε) (Connection T) δ α) (read : T → Except δ α) : Prop :=
  ∀ self : Connection T, ∃ clock, first env self = (read self.view,{ self with clock })

theorem reads_congr {first : Program (Env T ε) (Connection T) δ α} {read read' : T → Except δ α}
    (reads : Reads env first read) (same : ∀ tables, read tables = read' tables) : Reads env first read' :=
  (funext same : read = read') ▸ reads

theorem reads_pure (value : α) :
    Reads env (pure value : Program (Env T ε) (Connection T) δ α) fun _ => .ok value :=
  fun self => ⟨self.clock,rfl⟩

theorem reads_fail (error : δ) :
    Reads env (Program.fail error : Program (Env T ε) (Connection T) δ α) fun _ => .error error :=
  fun self => ⟨self.clock,rfl⟩

theorem reads_query (quiet : Quiet env) (read : T → Except ε α) : Reads env (query read) read :=
  fun _ => ⟨_,query_quiet quiet read⟩

theorem reads_bind {first : Program (Env T ε) (Connection T) δ α}
    {next : α → Program (Env T ε) (Connection T) δ β} {read : T → Except δ α}
    {read' : α → T → Except δ β} (begins : Reads env first read)
    (goes : ∀ value, Reads env (next value) (read' value)) :
    Reads env (first >>= next) fun tables => read tables >>= (read' · tables) := by
  intro self
  obtain ⟨clock,ran⟩ := begins self
  change ∃ clock, (first >>= next) env self = (read self.view >>= (read' · self.view),{ self with clock })
  rw [Program.bind_run,ran]
  cases found : read self.view with
  | error error => exact ⟨clock,rfl⟩
  | ok value =>
    obtain ⟨clock,ran⟩ := goes value { self with clock }
    exact ⟨clock,ran⟩

theorem reads_mapM {each : β → Program (Env T ε) (Connection T) δ α} {read : β → T → Except δ α}
    (items : List β) (all : ∀ item, Reads env (each item) (read item)) :
    Reads env (items.mapM each) fun tables => items.mapM (read · tables) := by
  induction items with
  | nil => exact reads_pure []
  | cons item items ih =>
    simp only [List.mapM_cons]
    exact reads_bind (all item) fun value => reads_bind ih fun values => reads_pure (value :: values)

/-- The same computation with errors of a wider type. -/
theorem reads_zoom {first : Session T ε α} {read : T → Except ε α} (wrap : ε → δ)
    (reads : Reads env first read) :
    Reads env (Program.zoom id (fun connection _ => connection) wrap first)
      fun tables => (read tables).mapError wrap := by
  intro self
  obtain ⟨clock,ran⟩ := reads self
  refine ⟨clock,?_⟩
  simp only [Program.zoom,id_eq,ran]
  cases read self.view <;> rfl

end

end UchiPulse.Sql
