import Mathlib.Data.List.Induction
import UchiPulse.Control.App
import UchiPulse.Lib.Forms
import UchiPulse.Settings.Stored

/-! The form of a new notification destination in the settings and the control app, which is
edited and saved time and again while nobody else writes. The settings app keeps the identifier
its first save is given, so that later saves update the row. The control app does not. -/
namespace UchiPulse.Control
open Db Sql Form
open Settings (NotificationDestinationRecord DestinationField SettingsApp destinationRow load_ok load_error
  commits_writtenDestination commitsAt_statement)

/-! ### The two editors -/

structure DestinationEditor (σ ω : Type) extends Editor σ DestinationField ω NotificationDestinationRecord where
  database : σ → Option Connection
  env : ω → Env

def settingsEditor : DestinationEditor SettingsApp Settings.World where
  edit self field := self.editField (.destination field)
  save world self := self.save world
  stores world self :=
    match self.db,self.draft with
    | some db,some draft =>
      self.validation = none && (SettingsApp.saveDraft world draft world.env db).1.isOk
    | _,_ => false
  form self :=
    match self.draft with
    | some (.destination v) => some v
    | _ => none
  database := SettingsApp.db
  env := Settings.World.env

def controlEditor : DestinationEditor ControlApp World where
  edit := ControlApp.editNotificationDestination
  save world self := self.saveNotificationDestination world
  stores world self :=
    match self.database with
    | some db => (saveNotificationDestination world.display self.notificationDestinationForm world.env db).1.isOk
    | none => false
  form self := some self.notificationDestinationForm
  database := ControlApp.database
  env := World.env

/-- One destination was added, which holds these values, and the others stayed as they were. -/
def AddsDestination (before after : Tables) (v : NotificationDestinationRecord) : Prop :=
  ∃ id, (∀ row ∈ before.destinations, row.id ≠ id) ∧
    after.destinations = before.destinations ++ [destinationRow id v]

namespace DestinationEditor
variable {σ ω : Type} (editor : DestinationEditor σ ω)

/-- The connection has no transaction open and sees these tables. -/
def Sees (app : σ) (tables : Tables) : Prop :=
  ∃ db, editor.database app = some db ∧ db.working = none ∧ db.committed = tables

/-- The form of a destination that was never saved is open. -/
structure Opened (before : Tables) (app : σ) : Prop where
  sees : editor.Sees app before
  new : ∃ form, editor.form app = some form ∧ form.id = none
  schema : Schema before

/-- Nobody else writes, and every save goes through. -/
structure Saves (app : σ) (acts : List (Act DestinationField ω)) : Prop where
  alone : ∀ world, .save world ∈ acts → ∀ n, (editor.env world).others n = []
  stores : editor.Stores app acts

/-- One row is left for the form, with the values of the last save. -/
def LeavesOne (before : Tables) (app : σ) (acts : List (Act DestinationField ω)) : Prop :=
  ∃ after last, editor.Sees (editor.run app acts) after ∧ (editor.saved app acts).getLast? = some last ∧
    AddsDestination before after last

end DestinationEditor

/-! ### The statements -/

section
variable {tables after : Tables} {v : NotificationDestinationRecord} {id : Nat}

theorem insertDestination_ok
    (ok : Tables.insertDestination v.familyId v.notificationType v.destination v.enabled tables = .ok (id,after)) :
    id = tables.destinationSeq + 1 ∧ after.destinations = tables.destinations ++ [destinationRow id v] ∧
      after.destinationSeq = id := by
  unfold Tables.insertDestination at ok
  split at ok
  · cases ok
  obtain ⟨-,same⟩ := Tables.constrained_ok.mp ok
  cases same
  exact ⟨rfl,rfl,rfl⟩

/-- An update of the last row. -/
theorem updateDestination_ok {rows : List DestinationRow} {old : NotificationDestinationRecord}
    (ok : Tables.updateDestination (destinationRow id v) tables = .ok ((),after))
    (fresh : ∀ row ∈ rows, row.id ≠ id) (shape : tables.destinations = rows ++ [destinationRow id old]) :
    after.destinations = rows ++ [destinationRow id v] := by
  obtain ⟨-,same⟩ := Tables.constrained_ok.mp ok
  cases same
  have kept : rows.map (fun row => if row.id = id then destinationRow id v else row) = rows.map fun row => row :=
    List.map_congr_left fun row among => if_neg (fresh row among)
  have last : (if (destinationRow id old).id = id then destinationRow id v else destinationRow id old) =
    destinationRow id v := if_pos rfl
  change tables.destinations.map (fun row => if row.id = id then destinationRow id v else row) = _
  rw [shape,List.map_append,List.map_singleton,kept,List.map_id',last]

end

/-- The next identifier is not taken. -/
theorem fresh_destination {before : Tables} (schema : Schema before) :
    ∀ row ∈ before.destinations, row.id ≠ before.destinationSeq + 1 :=
  fun row among => Nat.ne_of_lt (Nat.lt_succ_of_le (schema.destinationSeq row among))

/-! ### The settings app -/

section
variable {before : Tables} {values : List NotificationDestinationRecord}

/-- After the first save the form has the identifier of the row that the saves wrote. -/
def SettingsHolds (before : Tables) (values : List NotificationDestinationRecord) (app : SettingsApp) : Prop :=
  ∃ db form, app.db = some db ∧ db.working = none ∧ app.draft = some (.destination form) ∧
    match values.getLast? with
    | none => form.id = none ∧ db.committed = before
    | some last => form.id = some (before.destinationSeq + 1) ∧
        db.committed.destinations = before.destinations ++ [destinationRow (before.destinationSeq + 1) last]

theorem settingsHolds_edit {app : SettingsApp} (field : DestinationField) (holds : SettingsHolds before values app) :
    SettingsHolds before values (settingsEditor.edit app field) := by
  obtain ⟨db,form,connected,idle,shown,rows⟩ := holds
  refine ⟨db,form.edit app.data.families field,connected,idle,?_,?_⟩
  · simp only [settingsEditor,SettingsApp.editField,shown,Option.map_some,Settings.Draft.edit]
  · simpa only [NotificationDestinationRecord.edit_id] using rows

/-- The first save adds a row and every later one rewrites it. -/
theorem settings_written (schema : Schema before) {form : NotificationDestinationRecord} {tables after : Tables}
    {id : Nat}
    (rows : match values.getLast? with
      | none => form.id = none ∧ tables = before
      | some last => form.id = some (before.destinationSeq + 1) ∧
          tables.destinations = before.destinations ++ [destinationRow (before.destinationSeq + 1) last])
    (written : (form.id = none ∧ Tables.insertDestination form.familyId form.notificationType form.destination
        form.enabled tables = .ok (id,after)) ∨
      form.id = some id ∧ Tables.updateDestination (destinationRow id form) tables = .ok ((),after)) :
    id = before.destinationSeq + 1 ∧ after.destinations = before.destinations ++ [destinationRow id form] := by
  split at rows
  · obtain ⟨new,rfl⟩ := rows
    rcases written with ⟨-,ok⟩ | ⟨known,-⟩
    · obtain ⟨same,added,-⟩ := insertDestination_ok ok
      exact ⟨same,added⟩
    · rw [new] at known
      cases known
  · next last _ =>
    obtain ⟨known,shape⟩ := rows
    rcases written with ⟨new,-⟩ | ⟨same,ok⟩
    · rw [known] at new
      cases new
    · cases known.symm.trans same
      exact ⟨rfl,updateDestination_ok ok (fresh_destination schema) shape⟩

theorem settingsHolds_save (schema : Schema before) {app : SettingsApp} {world : Settings.World}
    (alone : ∀ n, world.env.others n = []) (stores : settingsEditor.stores world app = true)
    (holds : SettingsHolds before values app) :
    SettingsHolds before (values ++ (settingsEditor.form app).toList) (settingsEditor.save world app) := by
  obtain ⟨db,form,connected,idle,shown,rows⟩ := holds
  simp only [settingsEditor,connected,shown,Bool.and_eq_true,decide_eq_true_eq] at stores
  obtain ⟨valid,ok⟩ := stores
  rcases saved : SettingsApp.saveDraft world (.destination form) world.env db with ⟨error | draft,next⟩
  · rw [saved] at ok
    cases ok
  obtain ⟨closed,id,rfl,written⟩ := ((commitsAt_statement (commits_writtenDestination alone form) idle).map
    fun id => Settings.Draft.destination { form with id := some id }).ok saved
  obtain ⟨rfl,added⟩ := settings_written schema rows written
  have last : (values ++ (settingsEditor.form app).toList).getLast? = some form := by
    simp only [settingsEditor,shown,Option.toList_some,List.getLast?_concat]
  simp only [settingsEditor,SettingsApp.save,connected,shown,valid,saved] at last ⊢
  rcases loaded : Settings.Data.load world.display world.env next with ⟨message | data,reloaded⟩
  · obtain ⟨idle',committed⟩ := load_error alone closed loaded
    exact ⟨reloaded,_,rfl,idle',rfl,by rw [last,committed]; exact ⟨rfl,added⟩⟩
  · obtain ⟨idle',committed,-⟩ := load_ok alone closed loaded
    exact ⟨reloaded,_,rfl,idle',rfl,by rw [last,committed]; exact ⟨rfl,added⟩⟩

end

/-! ### The control app -/

section
variable {before : Tables} {values : List NotificationDestinationRecord}

theorem commits_saveNotificationDestination {env : Env} (alone : ∀ n, env.others n = [])
    (display : SqliteError → String) (v : NotificationDestinationRecord) :
    Commits env (saveNotificationDestination display v) fun tables _ after => ∃ id,
      (v.id = none ∧ Tables.insertDestination v.familyId v.notificationType v.destination v.enabled tables =
        .ok (id,after)) ∨
      v.id = some id ∧ Tables.updateDestination (destinationRow id v) tables = .ok ((),after) := by
  intro self idle
  simp only [saveNotificationDestination]
  split
  · exact commits_fail _ self idle
  · refine (((commits_writtenDestination alone v self idle).map fun _ => ()).zoom _).mono
      fun tables _ after done => ?_
    obtain ⟨id,-,written⟩ := done
    exact ⟨id,written⟩

theorem refreshDatabaseData_ok {world : World} (alone : ∀ n, world.env.others n = []) {app : ControlApp}
    {db : Connection} (connected : app.database = some db) (idle : db.working = none) :
    ∃ next, (app.refreshDatabaseData world).database = some next ∧ next.working = none ∧
      next.committed = db.committed ∧
      (app.refreshDatabaseData world).notificationDestinationForm = app.notificationDestinationForm := by
  have list {α : Type} {session : Session α} {read : Tables → Except SqliteError α}
      (finds : Finds world.env id session read) {db : Connection} (idle : db.working = none) :
      ∃ outcome next, reporting (sqlError world.display) session world.env db = (outcome,next) ∧
        next.working = none ∧ next.committed = db.committed :=
    have ⟨outcome,next,ran,closed,same,_⟩ := (finds_zoom (sqlError world.display) finds).2 db idle
    ⟨outcome,next,ran,closed,same⟩
  have query {α : Type} (read : Tables → Except SqliteError α) : Finds world.env id (query read) read :=
    finds_query (stable_of_alone alone) fun _ => rfl
  obtain ⟨devices,_,first,idle1,same1⟩ := @list _ Settings.listDevices _ (query _) _ idle
  obtain ⟨families,_,second,idle2,same2⟩ := @list _ Settings.listFamilies _ (query _) _ idle1
  obtain ⟨actions,_,third,idle3,same3⟩ := list (Settings.finds_listActions alone) idle2
  obtain ⟨destinations,_,fourth,idle4,same4⟩ := @list _ Settings.listNotificationDestinations _ (query _) _ idle3
  obtain ⟨events,last,fifth,idle5,same5⟩ := @list _ Settings.listEvents _ (query _) _ idle4
  have same := same5.trans (same4.trans (same3.trans (same2.trans same1)))
  refine ⟨last,?_⟩
  simp only [ControlApp.refreshDatabaseData,connected,first,second,third,fourth,fifth]
  -- the first list that fails ends the refresh
  rcases devices with error | devices
  · exact ⟨rfl,idle5,same,rfl⟩
  rcases families with error | families
  · exact ⟨rfl,idle5,same,rfl⟩
  rcases actions with error | actions
  · exact ⟨rfl,idle5,same,rfl⟩
  rcases destinations with error | destinations
  · exact ⟨rfl,idle5,same,rfl⟩
  rcases events with error | events <;> exact ⟨rfl,idle5,same,rfl⟩

/-- Every save adds a row, with the next identifier. -/
def ControlHolds (before : Tables) (values : List NotificationDestinationRecord) (app : ControlApp) : Prop :=
  ∃ db, app.database = some db ∧ db.working = none ∧ app.notificationDestinationForm.id = none ∧
    db.committed.destinationSeq = before.destinationSeq + values.length ∧
    db.committed.destinations = before.destinations ++
      values.mapIdx fun n v => destinationRow (before.destinationSeq + n + 1) v

theorem controlHolds_edit {app : ControlApp} (field : DestinationField) (holds : ControlHolds before values app) :
    ControlHolds before values (controlEditor.edit app field) := by
  obtain ⟨db,connected,idle,new,rows⟩ := holds
  refine ⟨db,connected,idle,?_,rows⟩
  cases field with
  | family familyId =>
    simp only [controlEditor,ControlApp.editNotificationDestination]
    split <;> exact new
  | notificationType name =>
    simp only [controlEditor,ControlApp.editNotificationDestination]
    split <;> exact new
  | destination text => exact new
  | enabled value => exact new

theorem controlHolds_save {app : ControlApp} {world : World} (alone : ∀ n, world.env.others n = [])
    (stores : controlEditor.stores world app = true) (holds : ControlHolds before values app) :
    ControlHolds before (values ++ (controlEditor.form app).toList) (controlEditor.save world app) := by
  obtain ⟨db,connected,idle,new,counted,rows⟩ := holds
  simp only [controlEditor,connected] at stores
  rcases saved : saveNotificationDestination world.display app.notificationDestinationForm world.env db with
    ⟨error | value,next⟩
  · rw [saved] at stores
    cases stores
  obtain ⟨closed,id,written⟩ := (commits_saveNotificationDestination alone _ _ db idle).ok saved
  rcases written with ⟨-,ok⟩ | ⟨known,-⟩
  · obtain ⟨rfl,added,counted'⟩ := insertDestination_ok ok
    obtain ⟨last,connected',idle',committed,form⟩ := refreshDatabaseData_ok alone
      (show ({ app with database := some next,status := "通知先を保存しました" } : ControlApp).database = some next
        from rfl) closed
    simp only [controlEditor,ControlApp.saveNotificationDestination,connected,saved]
    refine ⟨last,connected',idle',(congrArg NotificationDestinationRecord.id form).trans new,?_,?_⟩
    · rw [committed,counted',counted,List.length_append]
      rfl
    · rw [committed,added,rows,counted,Option.toList_some,List.mapIdx_concat,List.append_assoc]
  · rw [new] at known
    cases known

end

/-! ### Runs -/

section
variable {before : Tables}

theorem settings_run {app : SettingsApp} {acts : List (Act DestinationField Settings.World)}
    (opened : settingsEditor.Opened before app) (saves : settingsEditor.Saves app acts) :
    SettingsHolds before (settingsEditor.saved app acts) (settingsEditor.run app acts) := by
  obtain ⟨db,connected,idle,committed⟩ := opened.sees
  obtain ⟨form,shown,new⟩ := opened.new
  have draft : app.draft = some (.destination form) := by
    simp only [settingsEditor] at shown
    split at shown
    · next v same => rw [same,Option.some.inj shown]
    · cases shown
  have begins : SettingsHolds before [] app := ⟨db,form,connected,idle,draft,new,committed⟩
  exact Editor.run_keeps (SettingsHolds before) (fun _ _ field => settingsHolds_edit field)
    (fun _ _ _ alone => settingsHolds_save opened.schema alone) saves.alone saves.stores begins

theorem control_run {app : ControlApp} {acts : List (Act DestinationField World)}
    (opened : controlEditor.Opened before app) (saves : controlEditor.Saves app acts) :
    ControlHolds before (controlEditor.saved app acts) (controlEditor.run app acts) := by
  obtain ⟨db,connected,idle,committed⟩ := opened.sees
  obtain ⟨form,shown,new⟩ := opened.new
  cases shown
  have begins : ControlHolds before [] app :=
    ⟨db,connected,idle,new,congrArg Tables.destinationSeq committed,
      (congrArg Tables.destinations committed).trans (List.append_nil _).symm⟩
  exact Editor.run_keeps (ControlHolds before) (fun _ _ field => controlHolds_edit field)
    (fun _ _ _ alone => controlHolds_save alone) saves.alone saves.stores begins

/-- The settings app leaves one row for the form, however often it is saved. The control app
does if, and only if, it is not saved again. -/
theorem leavesOne_iff (before : Tables) :
    (∀ app first more, settingsEditor.Opened before app → settingsEditor.Saves app (.save first :: more) →
      settingsEditor.LeavesOne before app (.save first :: more)) ∧
    (∀ app first more, controlEditor.Opened before app → controlEditor.Saves app (.save first :: more) →
      (controlEditor.LeavesOne before app (.save first :: more) ↔ ∀ world, .save world ∉ more)) := by
  refine ⟨fun app first more opened saves => ?_,fun app first more opened saves => ?_⟩
  · obtain ⟨form,shown,-⟩ := opened.new
    obtain ⟨db,_,connected,idle,-,rows⟩ := settings_run opened saves
    cases wrote : (settingsEditor.saved app (.save first :: more)).getLast? with
    | none => simp [Editor.saved,shown] at wrote
    | some last =>
      rw [wrote] at rows
      exact ⟨db.committed,last,⟨db,connected,idle,rfl⟩,wrote,_,fresh_destination opened.schema,rows.2⟩
  · obtain ⟨db,connected,idle,-,-,rows⟩ := control_run opened saves
    have again : controlEditor.saved (controlEditor.save first app) more = [] ↔ ∀ world, .save world ∉ more :=
      Editor.saved_eq_nil_iff fun _ => rfl
    rw [← again]
    constructor
    · rintro ⟨after,last,⟨db',connected',-,rfl⟩,-,id,-,one⟩
      cases connected.symm.trans connected'
      have same := congrArg List.length (rows.symm.trans one)
      simpa [Editor.saved,controlEditor] using same
    · intro none
      have wrote : controlEditor.saved app (.save first :: more) = [app.notificationDestinationForm] :=
        congrArg (app.notificationDestinationForm :: ·) none
      rw [wrote] at rows
      exact ⟨db.committed,_,⟨db,connected,idle,rfl⟩,by rw [wrote]; rfl,_,fresh_destination opened.schema,rows⟩

/-! ### One family -/

def home : Tables := { Tables.empty with families := [{ familyId := 1,displayName := "花子",enabled := true }] }

theorem home_schema : Schema home := by
  constructor <;> decide

def settingsWorld : Settings.World where
  env := Env.quiet
  opened _ := .error ""
  picked := none
  now := ""
  display _ := ""

def controlWorld : World where
  env := Env.quiet
  display _ := ""

/-- The form of a new destination for the family. -/
def recipient : NotificationDestinationRecord := { ControlApp.newForm with familyId := 1,destination := "a" }

def settingsHome : SettingsApp :=
  { SettingsApp.new with
    db := some (.opened home),data := Settings.dataFrom home,openSection := .destinations
    draft := some (.destination recipient),creating := true }

def controlHome : ControlApp where
  database := some (.opened home)
  devices := []
  families := (Settings.dataFrom home).families
  actions := []
  notificationDestinations := []
  events := []
  selectedNotificationDestination := none
  notificationDestinationForm := recipient
  status := ""

theorem settingsHome_opened : settingsEditor.Opened home settingsHome :=
  ⟨⟨_,rfl,rfl,rfl⟩,⟨recipient,rfl,rfl⟩,home_schema⟩

theorem controlHome_opened : controlEditor.Opened home controlHome :=
  ⟨⟨_,rfl,rfl,rfl⟩,⟨recipient,rfl,rfl⟩,home_schema⟩

/-- Saved, edited and saved again. -/
def twice {ω : Type} (world : ω) : List (Act DestinationField ω) :=
  [.save world,.edit (.destination "b"),.save world]

theorem mem_twice {ω : Type} {world other : ω} (member : .save other ∈ twice world) : other = world := by
  simpa [twice] using member

theorem settings_twice : settingsEditor.Saves settingsHome (twice settingsWorld) where
  alone world member n := by
    rw [mem_twice member]
    rfl
  stores := by decide +kernel

theorem control_twice : controlEditor.Saves controlHome (twice controlWorld) where
  alone world member n := by
    rw [mem_twice member]
    rfl
  stores := by decide +kernel

/-- Saved twice in the control app, the destination stands in two rows. -/
theorem leavesOne_duplicate :
    controlEditor.Opened home controlHome ∧ controlEditor.Saves controlHome (twice controlWorld) ∧
    (controlEditor.database (controlEditor.run controlHome (twice controlWorld))).map (·.committed.destinations) =
      some [destinationRow 1 recipient,destinationRow 2 { recipient with destination := "b" }] ∧
    ¬ controlEditor.LeavesOne home controlHome (twice controlWorld) := by
  have rows : (controlEditor.database (controlEditor.run controlHome (twice controlWorld))).map
      (·.committed.destinations) =
      some [destinationRow 1 recipient,destinationRow 2 { recipient with destination := "b" }] := by
    decide +kernel
  refine ⟨controlHome_opened,control_twice,rows,?_⟩
  rintro ⟨after,last,⟨db,connected,-,rfl⟩,-,id,-,one⟩
  rw [connected] at rows
  have two := congrArg List.length ((Option.some.inj rows).symm.trans one)
  cases two

theorem leavesOne_iff_twice :
    settingsEditor.LeavesOne home settingsHome (twice settingsWorld) ∧
    ¬ controlEditor.LeavesOne home controlHome (twice controlWorld) ∧
    controlEditor.LeavesOne home controlHome [.save controlWorld] := by
  refine ⟨(leavesOne_iff home).1 _ _ _ settingsHome_opened settings_twice,fun one => ?_,?_⟩
  · exact ((leavesOne_iff home).2 _ _ _ controlHome_opened control_twice).mp one controlWorld (by simp)
  · refine ((leavesOne_iff home).2 _ _ _ controlHome_opened ⟨fun world member n => ?_,by decide +kernel⟩).mpr (by simp)
    exact control_twice.alone world (List.mem_cons.mpr (.inl (List.mem_singleton.mp member))) n

end

end UchiPulse.Control
