import UchiPulse.Settings.Stored

/-! Whether the record in the editor is stored. `creating` says so as long as the changes to a
new record are not cancelled, a deleted record is not left in the editor, and no transaction is
left open. -/
namespace UchiPulse.Settings
open Common Db Sql

namespace SettingsApp

/-- The open database has the record. -/
def Holds (self : SettingsApp) (key : RecordKey) : Prop :=
  ∃ db, self.db = some db ∧ Stored db.committed key

/-- What is true between two operations. -/
structure Invariant (app : SettingsApp) : Prop where
  idle : ∀ db, app.db = some db → db.working = none
  rows : ∀ draft ∈ app.data.drafts, app.Holds draft.key
  original : ∀ original, app.original = some original →
    (app.creating = true → original.key.Fresh) ∧ (app.creating = false → app.Holds original.key)
  draft : ∀ draft, app.draft = some draft → ∃ original, app.original = some original ∧
    (app.creating = true → draft.key.Fresh) ∧ (app.creating = false → draft.key = original.key)
  dialog : ∀ draft, app.dialog = some (.discard (.edit draft)) →
    app.Holds draft.key ∨ (app.creating = true ∧ app.original = some draft)

end SettingsApp

/-- Nobody else writes to the database, and a connection begins without a transaction. -/
structure World.Alone (world : World) : Prop where
  others : ∀ n, world.env.others n = []
  opened : ∀ path connection, world.opened path = .ok connection → connection.working = none

namespace SettingsApp

/-- The transaction of a save is ended by its `COMMIT` or `ROLLBACK`; the changes to a new record are not cancelled; and what
is loaded after a record was deleted is loaded completely. -/
structure Careful (app : SettingsApp) (world : World) (operation : Operation) : Prop where
  closes : operation = .click .save → ∀ db action, app.db = some db → app.draft = some (.action action) →
    Concludes world.env (writeAction action) db
  keeps : operation = .accept → ∀ draft, app.dialog = some (.discard (.edit draft)) → app.creating = true →
    app.original ≠ some draft
  reloads : operation = .accept → app.dialog = some .delete → ∀ db original after, app.db = some db →
    app.original = some original → deleteDraft world.display original world.env db = (.ok (),after) →
      ∃ data next, Data.load world.display world.env after = (.ok data,next)

def run (self : SettingsApp) (steps : List (World × Operation)) : SettingsApp :=
  steps.foldl (fun app step => app.step step.1 step.2) self

def AllCareful : SettingsApp → List (World × Operation) → Prop
  | _, [] => True
  | app, (world,operation) :: steps => app.Careful world operation ∧ (app.step world operation).AllCareful steps

end SettingsApp

/-! ### The form -/

theorem editAction_actionId (families : List FamilyRecord) (stateType : String) (v : ActionRecord)
    (field : ActionField) : (editAction false families stateType v field).actionId = v.actionId := by
  cases field with
  | actionId number => rfl
  | _ => simp only [editAction]; try split_ifs <;> rfl

/-- The form leaves the identity of a stored record alone. -/
theorem Draft.edit_key (families : List FamilyRecord) (stateType : String) (draft : Draft) (field : Field) :
    (draft.edit false families stateType field).key = draft.key := by
  unfold Draft.edit
  split
  next v field => cases field <;> rfl
  next v field => cases field <;> rfl
  next v field => simp only [Draft.key,editAction_actionId]
  next v field => simp only [Draft.key,NotificationDestinationRecord.edit_id]
  next => rfl

/-- Nor does it number a destination. -/
theorem Draft.edit_fresh (creating : Bool) (families : List FamilyRecord) (stateType : String) {draft : Draft}
    (field : Field) (fresh : draft.key.Fresh) : (draft.edit creating families stateType field).key.Fresh := by
  unfold Draft.edit
  split
  next => trivial
  next => trivial
  next => trivial
  next v field =>
    simp only [Draft.key,NotificationDestinationRecord.edit_id]
    exact fresh
  next => exact fresh

namespace SettingsApp
variable {app : SettingsApp} {world : World}

theorem Invariant.message (invariant : app.Invariant) (message : String) (error : Bool) :
    (app.message message error).Invariant :=
  ⟨invariant.idle,invariant.rows,invariant.original,invariant.draft,invariant.dialog⟩

/-- A database just loaded, with an empty editor. -/
theorem invariant_loaded (alone : world.Alone) {db next : Connection} {data : Data} (idle : db.working = none)
    (quiet : app.dialog = none) (ran : Data.load world.display world.env db = (.ok data,next)) :
    ({ app with db := some next,data }.clearEditor).Invariant := by
  obtain ⟨closed,committed,rfl⟩ := load_ok alone.others idle ran
  refine ⟨fun db' opened => ?_,fun draft member => ?_,fun original none => (by cases none),
    fun draft none => (by cases none),fun draft shown => ?_⟩
  · cases opened
    exact closed
  · refine ⟨next,rfl,?_⟩
    rw [committed]
    exact stored_dataFrom member
  · change app.dialog = _ at shown
    rw [quiet] at shown
    cases shown

/-- The connection after a call that changed nothing. -/
theorem Invariant.kept (invariant : app.Invariant) {db next : Connection} (opened : app.db = some db)
    (closed : next.working = none) (keeps : KeepsRecords db.committed next.committed) :
    ({ app with db := some next } : SettingsApp).Invariant := by
  have holds (key : RecordKey) (held : app.Holds key) : ({ app with db := some next } : SettingsApp).Holds key := by
    obtain ⟨db',opened',stored⟩ := held
    rw [opened] at opened'
    cases opened'
    exact ⟨next,rfl,keeps key stored⟩
  refine ⟨fun db' opened => ?_,fun draft member => holds _ (invariant.rows draft member),fun original found => ?_,
    invariant.draft,fun draft shown => (invariant.dialog draft shown).imp_left (holds _)⟩
  · cases opened
    exact closed
  · obtain ⟨fresh,held⟩ := invariant.original original found
    exact ⟨fresh,fun stored => holds _ (held stored)⟩

theorem openDatabase_ok (alone : world.Alone) {path : String} {db : Connection}
    (ok : openDatabase world.display (world.opened path) world.env = .ok db) : db.working = none := by
  unfold openDatabase at ok
  cases found : world.opened path with
  | error message => rw [found] at ok; cases ok
  | ok connection =>
    have idle := alone.opened path connection found
    obtain ⟨outcome,last,ran,closed,-⟩ := (finds_zoom (sqlError world.display)
      (finds_query (stable_of_alone alone.others : Stable world.env id) fun _ => rfl)).2 connection idle
    simp only [found,reporting,userVersion] at ok
    rw [ran] at ok
    cases outcome with
    | error message => cases ok
    | ok version =>
      simp only at ok
      split_ifs at ok
      cases ok
      exact closed

theorem invariant_openFile (invariant : app.Invariant) (alone : world.Alone) (quiet : app.dialog = none)
    (path : String) : (app.openFile world path).Invariant := by
  unfold openFile
  cases opened : openDatabase world.display (world.opened path) world.env with
  | error message => exact invariant.message _ _
  | ok db =>
    simp only
    rcases ran : Data.load world.display world.env db with ⟨message | data,next⟩
    · exact invariant.message _ _
    · exact (invariant_loaded alone (openDatabase_ok alone opened) quiet ran).message _ _

theorem invariant_reload (invariant : app.Invariant) (alone : world.Alone) (quiet : app.dialog = none) :
    (app.reload world).Invariant := by
  unfold reload
  cases opened : app.db with
  | none => exact invariant
  | some db =>
    simp only
    have idle := invariant.idle db opened
    rcases ran : Data.load world.display world.env db with ⟨message | data,next⟩
    · obtain ⟨closed,committed⟩ := load_error alone.others idle ran
      exact (invariant.kept opened closed fun key stored => committed ▸ stored).message _ _
    · exact (invariant_loaded alone idle quiet ran).message _ _

theorem emptyDraft_fresh {draft : Draft} (empty : app.emptyDraft = some draft) : draft.key.Fresh := by
  unfold emptyDraft at empty
  split at empty <;> cases empty
  · trivial
  · trivial
  · trivial
  · rfl

theorem invariant_newRecord (invariant : app.Invariant) (quiet : app.dialog = none) : app.newRecord.Invariant := by
  unfold newRecord
  cases empty : app.emptyDraft with
  | none => exact invariant
  | some draft =>
    have fresh := emptyDraft_fresh empty
    refine ⟨invariant.idle,invariant.rows,fun original found => ?_,fun draft' found => ?_,fun draft' shown => ?_⟩
    · cases found
      exact ⟨fun _ => fresh,fun stored => (by cases stored)⟩
    · cases found
      exact ⟨draft,rfl,fun _ => fresh,fun stored => (by cases stored)⟩
    · change app.dialog = _ at shown
      rw [quiet] at shown
      cases shown

/-- An intent is carried out while no dialog is open. A record is opened only if it is stored. -/
theorem invariant_perform (invariant : app.Invariant) (alone : world.Alone) (quiet : app.dialog = none)
    (intent : Intent) (stored : ∀ draft, intent = .edit draft → app.Holds draft.key) :
    (app.perform world intent).Invariant := by
  cases intent with
  | openPicker =>
    unfold perform
    cases world.picked with
    | none => exact invariant
    | some path => exact invariant_openFile invariant alone quiet path
  | openPath path => exact invariant_openFile invariant alone quiet path
  | navigate target =>
    refine ⟨invariant.idle,invariant.rows,fun original none => (by cases none),fun draft none => (by cases none),
      fun draft shown => ?_⟩
    change app.dialog = _ at shown
    rw [quiet] at shown
    cases shown
  | edit draft =>
    have held := stored draft rfl
    refine ⟨invariant.idle,invariant.rows,fun original found => ?_,fun draft' found => ?_,fun draft' shown => ?_⟩
    · cases found
      exact ⟨fun creating => (by cases creating),fun _ => held⟩
    · cases found
      exact ⟨draft,rfl,fun creating => (by cases creating),fun _ => rfl⟩
    · change app.dialog = _ at shown
      rw [quiet] at shown
      cases shown
  | new => exact invariant_newRecord invariant quiet
  | reload => exact invariant_reload invariant alone quiet
  | close => exact ⟨invariant.idle,invariant.rows,invariant.original,invariant.draft,invariant.dialog⟩

/-- A request with unsaved changes only asks, so that the record may also be the one in the
editor. -/
theorem invariant_request (invariant : app.Invariant) (alone : world.Alone) (quiet : app.dialog = none)
    (intent : Intent) (stored : ∀ draft, intent = .edit draft →
      app.Holds draft.key ∨ (app.dirty = true ∧ app.creating = true ∧ app.original = some draft)) :
    (app.request world intent).Invariant := by
  unfold request
  split
  next dirty =>
    refine ⟨invariant.idle,invariant.rows,invariant.original,invariant.draft,fun draft shown => ?_⟩
    cases shown
    exact (stored draft rfl).imp_right And.right
  next clean =>
    refine invariant_perform invariant alone quiet intent fun draft same => ?_
    rcases stored draft same with held | ⟨dirty,-⟩
    · exact held
    · exact absurd dirty clean

theorem invariant_editField (invariant : app.Invariant) (quiet : app.dialog = none) (field : Field) :
    (app.editField field).Invariant := by
  have edited (stateType : String) : ({ app with
      draft := app.draft.map fun draft => draft.edit app.creating app.data.families app.stateType field
      stateType } : SettingsApp).Invariant := by
    refine ⟨invariant.idle,invariant.rows,invariant.original,fun draft found => ?_,fun draft shown => ?_⟩
    · obtain ⟨before,known,rfl⟩ := Option.map_eq_some_iff.mp found
      obtain ⟨original,same,fresh,own⟩ := invariant.draft before known
      refine ⟨original,same,fun creating => Draft.edit_fresh _ _ _ _ (fresh creating),fun stored => ?_⟩
      change app.creating = false at stored
      rw [← own stored,stored]
      exact Draft.edit_key _ _ _ _
    · change app.dialog = _ at shown
      rw [quiet] at shown
      cases shown
  unfold editField
  split
  · split_ifs
    · exact edited _
    · exact invariant
  · exact edited _

theorem invariant_save (invariant : app.Invariant) (alone : world.Alone)
    (closes : ∀ db action, app.db = some db → app.draft = some (.action action) →
      Concludes world.env (writeAction action) db)
    (quiet : app.dialog = none) : (app.save world).Invariant := by
  unfold save
  split
  next db draft opened edited =>
    cases app.validation with
    | some message => exact invariant.message _ _
    | none =>
      have idle := invariant.idle db opened
      have commits := commitsAt_saveDraft alone.others world draft
        (fun action same => closes db action opened (same ▸ edited)) idle
      simp only
      rcases ran : saveDraft world draft world.env db with ⟨message | saved,next⟩
      · obtain ⟨closed,committed⟩ := commits.error ran
        exact (invariant.kept opened closed fun key stored => committed ▸ stored).message _ _
      · obtain ⟨closed,keeps,stores⟩ := commits.ok ran
        have own : draft.key.Fresh ∨ Stored db.committed draft.key := by
          obtain ⟨original,found,fresh,same⟩ := invariant.draft draft edited
          cases creating : app.creating with
          | true => exact .inl (fresh creating)
          | false =>
            obtain ⟨db',opened',stored⟩ := (invariant.original original found).2 creating
            rw [opened] at opened'
            cases opened'
            exact .inr (same creating ▸ stored)
        have stored := stores own
        have savedInvariant : ({ app with
            db := some next,draft := some saved,original := some saved,creating := false } :
              SettingsApp).Invariant := by
          obtain ⟨idle',rows,-,-,-⟩ := invariant.kept opened closed keeps
          refine ⟨idle',rows,fun original found => ?_,fun draft' found => ?_,fun draft' shown => ?_⟩
          · cases found
            exact ⟨fun creating => (by cases creating),fun _ => ⟨next,rfl,stored⟩⟩
          · cases found
            exact ⟨saved,rfl,fun creating => (by cases creating),fun _ => rfl⟩
          · change app.dialog = _ at shown
            rw [quiet] at shown
            cases shown
        simp only
        rcases loaded : Data.load world.display world.env next with ⟨message | data,last⟩
        · obtain ⟨closed',committed⟩ := load_error alone.others closed loaded
          exact (savedInvariant.kept rfl closed' fun key stored => committed ▸ stored).message _ _
        · obtain ⟨closed',committed,rfl⟩ := load_ok alone.others closed loaded
          obtain ⟨idle',-,original,draft',dialog⟩ := savedInvariant.kept rfl closed' fun key stored => committed ▸ stored
          refine ⟨idle',fun draft member => ⟨last,rfl,?_⟩,original,draft',dialog⟩
          rw [committed]
          exact stored_dataFrom member
  next => exact invariant

theorem invariant_delete (invariant : app.Invariant) (alone : world.Alone) (quiet : app.dialog = none)
    (reloads : ∀ db original after, app.db = some db → app.original = some original →
      deleteDraft world.display original world.env db = (.ok (),after) →
        ∃ data next, Data.load world.display world.env after = (.ok data,next)) : (app.delete world).Invariant := by
  unfold delete
  split
  next db original opened edited =>
    have idle := invariant.idle db opened
    have commits := commitsAt_deleteDraft alone.others world.display original idle
    rcases ran : deleteDraft world.display original world.env db with ⟨message | ⟨⟨⟩⟩,next⟩
    · obtain ⟨closed,committed⟩ := commits.error ran
      exact (invariant.kept opened closed fun key stored => committed ▸ stored).message _ _
    · obtain ⟨closed,-⟩ := commits.ok ran
      obtain ⟨data,last,loaded⟩ := reloads db original next opened edited ran
      have reloaded : (({ app with db := some next } : SettingsApp).reload world).Invariant := by
        simp only [reload,loaded]
        exact (invariant_loaded alone closed quiet loaded).message _ _
      simp only
      split_ifs
      · exact reloaded
      · exact reloaded.message _ _
  next => exact invariant

/-- A widget that is not shown does nothing. -/
theorem invariant_shown (invariant : app.Invariant) {shown : Prop} [Decidable shown] {clicked : SettingsApp}
    (holds : shown → clicked.Invariant) : (if shown then clicked else app).Invariant := by
  by_cases visible : shown
  · rw [if_pos visible]
    exact holds visible
  · rw [if_neg visible]
    exact invariant

theorem invariant_click (invariant : app.Invariant) (alone : world.Alone) (quiet : app.dialog = none) (click : Click)
    (closes : click = .save → ∀ db action, app.db = some db → app.draft = some (.action action) →
      Concludes world.env (writeAction action) db) : (app.click world click).Invariant := by
  have request (intent : Intent) (other : ∀ draft, intent ≠ .edit draft) : (app.request world intent).Invariant :=
    invariant_request invariant alone quiet intent fun draft same => absurd same (other draft)
  cases click with
  | openPicker => exact request _ (by simp)
  | openPath path => exact invariant_shown invariant fun _ => request _ (by simp)
  | reload => exact invariant_shown invariant fun _ => request _ (by simp)
  | navigate target => exact invariant_shown invariant fun _ => request _ (by simp)
  | new => exact invariant_shown invariant fun _ => request _ (by simp)
  | field field => exact invariant_shown invariant fun _ => invariant_editField invariant quiet field
  | save => exact invariant_shown invariant fun _ => invariant_save invariant alone (closes rfl) quiet
  | row index =>
    refine invariant_shown invariant fun _ => ?_
    cases listed : app.rows[index]? with
    | none => exact invariant
    | some draft =>
      refine invariant_request invariant alone quiet _ fun draft' same => ?_
      cases same
      exact .inl (invariant.rows draft (app.rows_subset (List.mem_of_getElem? listed)))
  | cancelChanges =>
    refine invariant_shown invariant fun shown => ?_
    cases found : app.original with
    | none => exact invariant
    | some original =>
      refine invariant_request invariant alone quiet _ fun draft same => ?_
      cases same
      cases creating : app.creating with
      | true => exact .inr ⟨shown.2.2,rfl,found⟩
      | false => exact .inl ((invariant.original original found).2 creating)
  | askDelete =>
    refine invariant_shown invariant fun _ => ?_
    refine ⟨invariant.idle,invariant.rows,invariant.original,invariant.draft,fun draft shown => ?_⟩
    cases shown

theorem invariant_step (invariant : app.Invariant) (alone : world.Alone) (operation : Operation)
    (careful : app.Careful world operation) : (app.step world operation).Invariant := by
  obtain ⟨closes,keeps,reloads⟩ := careful
  have dismissed : ({ app with dialog := none } : SettingsApp).Invariant :=
    ⟨invariant.idle,invariant.rows,invariant.original,invariant.draft,fun draft shown => (by cases shown)⟩
  cases operation with
  | click click =>
    simp only [step]
    split_ifs with shown
    · exact invariant
    · have quiet : app.dialog = none := Option.not_isSome_iff_eq_none.mp shown
      exact invariant_click invariant alone quiet click fun same => closes (by rw [same])
  | cancel => exact dismissed
  | accept =>
    cases open' : app.dialog with
    | none =>
      simp only [step,open']
      exact invariant
    | some dialog =>
      cases dialog with
      | delete =>
        simp only [step,open']
        exact invariant_delete dismissed alone rfl (reloads rfl open')
      | discard intent =>
        simp only [step,open']
        have restored : ({ app with dialog := none,draft := app.original } : SettingsApp).Invariant := by
          refine ⟨invariant.idle,invariant.rows,invariant.original,fun draft found => ?_,
            fun draft shown => (by cases shown)⟩
          obtain ⟨fresh,-⟩ := invariant.original draft found
          exact ⟨draft,found,fresh,fun _ => rfl⟩
        refine invariant_perform restored alone rfl intent fun draft same => ?_
        subst same
        rcases invariant.dialog draft open' with held | ⟨creating,own⟩
        · exact held
        · exact absurd own (keeps rfl draft open' creating)
  | closeRequested =>
    simp only [step]
    split_ifs
    · refine ⟨invariant.idle,invariant.rows,invariant.original,invariant.draft,fun draft shown => ?_⟩
      cases shown
    · exact invariant

theorem invariant_new : SettingsApp.new.Invariant :=
  ⟨fun _ none => (by cases none),fun _ none => (by cases none),fun _ none => (by cases none),
    fun _ none => (by cases none),fun _ none => (by cases none)⟩

theorem invariant_run (invariant : app.Invariant) {steps : List (World × Operation)}
    (alone : ∀ step ∈ steps, step.1.Alone) (careful : app.AllCareful steps) : (app.run steps).Invariant := by
  induction steps generalizing app with
  | nil => exact invariant
  | cons step steps ih =>
    obtain ⟨first,later⟩ := List.forall_mem_cons.mp alone
    exact ih (invariant_step invariant first step.2 careful.1) later careful.2

end SettingsApp

/-- In a careful run, a draft that is not being created is of a record the database has. -/
theorem editor_knows_stored_records {steps : List (World × Operation)} (alone : ∀ step ∈ steps, step.1.Alone)
    (careful : SettingsApp.new.AllCareful steps) :
    let reached := SettingsApp.new.run steps
    ∀ draft, reached.draft = some draft → reached.creating = false →
      ∃ db original, reached.db = some db ∧ reached.original = some original ∧ Stored db.committed original.key := by
  intro reached draft shown stored
  have invariant := SettingsApp.invariant_run SettingsApp.invariant_new alone careful
  obtain ⟨original,found,-⟩ := invariant.draft draft shown
  obtain ⟨db,opened,holds⟩ := (invariant.original original found).2 stored
  exact ⟨db,original,opened,found,holds⟩

/-! ### A new family -/

/-- An empty database is opened, and nothing fails. -/
def quietWorld : World where
  env := Env.quiet
  opened _ := .ok (.opened Tables.empty)
  picked := none
  now := "2024-01-01 00:00:00"
  display _ := "error"

/-- A family is entered, and then the changes are cancelled. -/
def cancelSteps : List Operation :=
  [.click (.openPath "uchi-pulse.db"),.click .new,.click (.field (.family (.displayName "A"))),.click .cancelChanges,
    .accept]

def saveSteps : List Operation :=
  [.click (.openPath "uchi-pulse.db"),.click .new,.click (.field (.family (.displayName "A"))),.click .save]

theorem quiet_alone (operations : List Operation) :
    ∀ step ∈ operations.map fun operation => (quietWorld,operation), step.1.Alone := by
  intro step member
  obtain ⟨operation,-,rfl⟩ := List.mem_map.mp member
  refine ⟨fun _ => rfl,fun path connection found => ?_⟩
  cases found
  rfl

/-- The editor then takes the family for stored, which it is not. -/
theorem editor_knows_stored_records_cancelled :
    let reached := SettingsApp.new.run (cancelSteps.map fun operation => (quietWorld,operation))
    (∀ step ∈ cancelSteps.map fun operation => (quietWorld,operation), step.1.Alone) ∧ reached.draft.isSome ∧
      reached.creating = false ∧ ∀ db original, reached.db = some db → reached.original = some original →
        ¬ Stored db.committed original.key := by
  refine ⟨quiet_alone _,by decide +kernel,by decide +kernel,?_⟩
  intro db original opened found
  cases opened
  cases found
  decide +kernel

theorem editor_knows_stored_records_saved :
    let reached := SettingsApp.new.run (saveSteps.map fun operation => (quietWorld,operation))
    ∃ db original, reached.db = some db ∧ reached.original = some original ∧ Stored db.committed original.key := by
  intro reached
  have careful : SettingsApp.new.AllCareful (saveSteps.map fun operation => (quietWorld,operation)) := by
    have closes (body : Session Unit) (self : Connection) : Concludes quietWorld.env body self :=
      ⟨fun ⟨_,_,_,_,_,refused⟩ => (by cases refused),fun _ _ _ _ _ _ refused => (by cases refused)⟩
    refine ⟨?_,?_,?_,?_,trivial⟩ <;>
      exact ⟨fun _ db action _ _ => closes _ db,fun accept => (by cases accept),fun accept => (by cases accept)⟩
  have shown : reached.draft = some (.family { familyId := 1,displayName := "A",enabled := true }) := by
    decide +kernel
  have stored : reached.creating = false := by decide +kernel
  exact editor_knows_stored_records (quiet_alone saveSteps) careful _ shown stored

end UchiPulse.Settings
