import SqlRelay.Proofs.Access.Decision
import SqlRelay.Proofs.Table.Sending
/-!
# What the tasks of a gateway leave

Each task of a gateway leaves visits at databases and changes its state.  Authorization may only
ask the managed source; a call goes to one database, which is opened first; and whatever is kept of
a script was compiled from it.

Main results:

- Theorem `Gateway.ofConfig_wellNamed`: a database is held under its own id.
- Theorem `Gateway.authorize_onlyAsks`: authorization leaves nothing but the visits of the managed
  source.
- Theorem `Gateway.opened_effects`: what a call sends follows the opening of its database.
- Theorems `Gateway.execute_effects` and `Gateway.useTable_effects`: a script sends the transaction
  of statements that were compiled from it, and an action on a table what is built for it.
-/

namespace SqlRelay

/-- Databases are held under their own ids, and the grants of a managed source stand in one of
them. -/
structure Gateway.WellNamed (g : Gateway) : Prop where
  databases : ∀ id db, g.databases.get? id = some db → db.id = id
  managed : ∀ m, g.managed = some m → g.databases.get? m.database.id = some m.database

/-- Looking up among changed values is changing what is found. -/
theorem Gateway.get?_mapNamed {α β : Type} (f : String → α → β) (fields : Fields α)
    (name : String) : (mapNamed f fields).get? name = (fields.get? name).map (f name) := by
  induction fields with
  | nil => rfl
  | cons field rest ih =>
    have hstep : mapNamed f (field :: rest) = (field.1, f field.1 field.2) :: mapNamed f rest := rfl
    rw [hstep, Fields.get?_cons, Fields.get?_cons, ih]
    by_cases h : field.1 = name
    · simp [h]
    · simp [h]

/-- The managed source keeps the database it was given. -/
theorem ManagedGrants.database_of_load {around : Surroundings} {config : ManagedConfig}
    {database : Database} {m : ManagedGrants}
    (loaded : ManagedGrants.load around config database = .ok m) : m.database = database := by
  unfold load at loaded
  split at loaded
  · simp at loaded
  · split at loaded
    · simp at loaded
    · simp at loaded
    · rw [← Except.ok.inj loaded]

/-- Every gateway of a configuration holds its databases under their ids. -/
theorem Gateway.ofConfig_wellNamed {around : Surroundings} {config : Configuration}
    {recompile : Bool} {g : Gateway} (built : ofConfig around config recompile = .ok g) :
    g.WellNamed := by
  have hnames : ∀ id db, (mapNamed (Database.ofConfig around) config.databases).get? id = some db →
      db.id = id := by
    intro id db hfound
    rw [get?_mapNamed, Option.map_eq_some_iff] at hfound
    obtain ⟨found, -, rfl⟩ := hfound
    rfl
  unfold ofConfig at built
  dsimp only at built
  split at built
  · simp at built
  · rename_i managed hmanaged
    obtain rfl := Except.ok.inj built
    refine ⟨hnames, ?_⟩
    intro m hm
    obtain rfl : managed = some m := hm
    unfold managedOf at hmanaged
    split at hmanaged
    · simp at hmanaged
    · split at hmanaged
      · simp at hmanaged
      · rename_i source database hfound
        split at hmanaged
        · simp at hmanaged
        · rename_i loaded hload
          obtain rfl : loaded = m := by simpa using hmanaged
          rw [ManagedGrants.database_of_load hload, hnames _ _ hfound]
          exact hfound

/-! ## Kept statements -/

namespace Script

/-- Statements that the script was compiled to for a dialect, in surroundings that were met. -/
def CompiledIn (script : Script) (seen : List Surroundings) (d : Dialect)
    (statements : List Statement) : Prop :=
  ∃ around ∈ seen, script.compiled around d = .ok statements

/-- What is kept of the script was compiled from it. -/
def Keeps (script : Script) (seen : List Surroundings) (shelf : Shelf) : Prop :=
  ∀ kept, shelf = some kept → script.CompiledIn seen kept.dialect kept.statements

variable {script : Script} {seen : List Surroundings}

theorem CompiledIn.later {d : Dialect} {statements : List Statement} (around : Surroundings)
    (h : script.CompiledIn seen d statements) :
    script.CompiledIn (around :: seen) d statements := by
  obtain ⟨found, hmem, hcompiled⟩ := h
  exact ⟨found, List.mem_cons_of_mem _ hmem, hcompiled⟩

/-- What is kept stays compiled from the script when other surroundings are met. -/
theorem Keeps.later {shelf : Shelf} (around : Surroundings) (h : script.Keeps seen shelf) :
    script.Keeps (around :: seen) shelf :=
  fun kept hkept => (h kept hkept).later around

/-- Statements on demand were compiled from the script, and so is what is kept afterwards. -/
theorem statements_keeps (around : Surroundings) (d : Dialect) (anew : Bool) {shelf : Shelf}
    (keeps : script.Keeps seen shelf) :
    (∀ supply, (script.statements around d anew shelf).1 = .ok supply →
      script.CompiledIn (around :: seen) d supply.statements) ∧
    script.Keeps (around :: seen) (script.statements around d anew shelf).2 := by
  unfold statements
  split
  · rename_i statements hkept
    have hfound : keptFor shelf d = some statements := by
      cases anew <;> simp_all
    refine ⟨?_, keeps.later around⟩
    rintro supply hsupply
    obtain rfl := Except.ok.inj hsupply
    unfold keptFor at hfound
    split at hfound
    · rename_i kept
      split at hfound
      · rename_i hdialect
        rw [← Option.some.inj hfound, ← hdialect]
        exact (keeps kept rfl).later around
      · simp at hfound
    · simp at hfound
  · cases hcompiled : script.compiled around d with
    | error e => exact ⟨by simp, by simp [Keeps]⟩
    | ok list =>
      have hnew : script.CompiledIn (around :: seen) d list := ⟨around, by simp, hcompiled⟩
      refine ⟨?_, ?_⟩
      · rintro supply hsupply
        obtain rfl := Except.ok.inj hsupply
        exact hnew
      · rintro kept hkept
        obtain rfl := Option.some.inj hkept
        exact hnew

end Script

namespace GatewayState

@[simp]
theorem withSession_session (session : Session) (s : GatewayState) :
    (s.withSession session).session = session := rfl

@[simp]
theorem withShelf_session (id : String) (shelf : Shelf) (s : GatewayState) :
    (s.withShelf id shelf).session = s.session := rfl

@[simp]
theorem withShelf_shelf_self (id : String) (shelf : Shelf) (s : GatewayState) :
    (s.withShelf id shelf).shelf id = shelf := by
  simp [withShelf, GatewayState.shelf]

/-- Changing what is kept of one script leaves the others alone. -/
theorem withShelf_shelf_of_ne {id other : String} (shelf : Shelf) (s : GatewayState)
    (h : other ≠ id) : (s.withShelf id shelf).shelf other = s.shelf other := by
  simp [withShelf, GatewayState.shelf, Fields.get?_put_of_ne _ _ h]

end GatewayState

namespace Gateway

variable (g : Gateway) (around : Surroundings)

/-- What is kept of the scripts was compiled from them, in surroundings that were met. -/
def ShelvesSound (seen : List Surroundings) (s : GatewayState) : Prop :=
  ∀ id script, g.scripts.get? id = some script → script.Keeps seen (s.shelf id)

variable {g} {seen : List Surroundings} {s : GatewayState}

theorem ShelvesSound.start : g.ShelvesSound [] .start := by
  intro id script _ kept hkept
  simp [GatewayState.start, GatewayState.shelf] at hkept

/-- Only what is kept of scripts matters. -/
theorem ShelvesSound.of_shelves (h : g.ShelvesSound seen s) {t : GatewayState}
    (same : t.shelves = s.shelves) : g.ShelvesSound seen t := by
  intro id script found
  have hshelf : t.shelf id = s.shelf id := by simp [GatewayState.shelf, same]
  rw [hshelf]
  exact h id script found

theorem ShelvesSound.later (h : g.ShelvesSound seen s) : g.ShelvesSound (around :: seen) s :=
  fun id script found => (h id script found).later around

/-- What is kept stays sound if the new shelf of a script is. -/
theorem ShelvesSound.withShelf (h : g.ShelvesSound seen s) {id : String} {shelf : Shelf}
    (keeps : ∀ script, g.scripts.get? id = some script → script.Keeps seen shelf) :
    g.ShelvesSound seen (s.withShelf id shelf) := by
  intro other script found
  by_cases heq : other = id
  · subst heq
    rw [GatewayState.withShelf_shelf_self]
    exact keeps script found
  · rw [GatewayState.withShelf_shelf_of_ne shelf s heq]
    exact h other script found

/-! ## Authorization -/

variable (g)

/-- Nothing reaches a database but a question to the managed source about a token: its database is
opened, and the query for grants is sent there. -/
def OnlyAsks (token : String) (s t : Session) : Prop :=
  t.visits = s.visits ∨
    ∃ m opening sent, g.managed = some m ∧ m.database.Opening around opening ∧
      (sent = [] ∨ sent = [m.tokenQuery token]) ∧
      t.visits = s.visits ++ (opening ++ sent).map (⟨m.database.id, ·⟩)

/-- A check leaves nothing but what asking the managed source leaves. -/
theorem check_onlyAsks (r : AccessRequest) (s : AccessState Session) :
    g.OnlyAsks around r.token s.world ((g.authorizer around).check r s).2.world := by
  rcases (g.authorizer around).stageOfEntry_cases s.cache r with ⟨verdict, hstage⟩ | hstage
  · rw [Authorizer.check_of_decided _ hstage]
    exact .inl rfl
  · cases hmanaged : g.managed with
    | none =>
      have hnone : (g.authorizer around).source = none := by simp [authorizer, hmanaged]
      obtain ⟨verdict, hdecided⟩ := Authorizer.stageOfEntry_of_no_source _ hnone s.cache r
      simp [hdecided] at hstage
    | some m =>
      have hsource : (g.authorizer around).source = some (fun token =>
          Action.inside AccessState.world (fun session s => { s with world := session })
            (m.grants around token)) := by
        simp [authorizer, hmanaged]
      obtain ⟨opening, sent, hopening, hsent, hvisits⟩ := m.grants_visits around r.token s.world
      have hworld : ((g.authorizer around).check r s).2.world =
          (m.grants around r.token s.world).2 := by
        rw [Authorizer.check_of_missed _ hsource hstage]
        simp only [Action.inside_apply]
        rcases m.grants around r.token s.world with ⟨_ | _, t⟩ <;> rfl
      rw [hworld]
      exact .inr ⟨m, opening, sent, hmanaged, hopening, hsent, hvisits⟩

/-- Authorization leaves nothing but what asking the managed source leaves, and keeps all
scripts as they are. -/
theorem authorize_onlyAsks (r : AccessRequest) (s : GatewayState) :
    g.OnlyAsks around r.token s.session (g.authorize around r s).2.session ∧
      (g.authorize around r s).2.shelves = s.shelves := by
  rcases g.authorize_cases around r s with
    ⟨-, h⟩ | ⟨-, ⟨why, -, h⟩ | ⟨-, h⟩ | ⟨-, h⟩⟩
  all_goals rw [h]
  · exact ⟨.inl rfl, rfl⟩
  · exact ⟨.inl rfl, rfl⟩
  · exact ⟨.inl rfl, rfl⟩
  · exact ⟨g.check_onlyAsks around r s.access, rfl⟩

/-! ## Calls at an open database -/

variable {g}

/-- A call that follows the opening of its database leaves its events there, if the database can be
opened; other parts of the state stay as they are. -/
theorem opened_effects {α : Type} (db : Database) (call : Session.Call α)
    (Sent : List Event → Prop) (none : Sent [])
    (sends : ∀ session : Session, session.faults = s.session.faults →
      session.replies = s.session.replies →
      ∃ events left, (call session).2 = session.after events left ∧ Sent events) :
    ∃ opening events, db.Opening around opening ∧ Sent events ∧
      ((onSession (db.ensureOpen around) >>= fun _ => onSession call) s).2.session.visits =
        s.session.visits ++ (opening ++ events).map (⟨db.id, ·⟩) ∧
      ((onSession (db.ensureOpen around) >>= fun _ => onSession call) s).2.shelves =
        s.shelves := by
  obtain ⟨opening, hopening, turned⟩ := db.ensureOpen_visits around s.session
  simp only [Action.bind_apply, onSession, Action.inside_apply]
  rcases hopened : db.ensureOpen around s.session with ⟨result, session⟩
  rw [hopened] at turned
  have hvisits : session.visits = s.session.visits ++ opening.map (⟨db.id, ·⟩) := turned.visits
  cases result with
  | error e => exact ⟨opening, [], hopening, none, by simpa using hvisits, rfl⟩
  | ok _ =>
    obtain ⟨events, left, hrun, hsent⟩ := sends session turned.faults turned.replies
    have hinUse : session.inUse = db.id := turned.inUse
    refine ⟨opening, events, hopening, hsent, ?_, rfl⟩
    simp [hrun, hvisits, hinUse]

/-- A script that a database can see is one of the gateway. -/
theorem script?_get? {database id : String} {script : Script}
    (found : g.script? database id = some script) : g.scripts.get? id = some script :=
  ((g.script?_eq_some_iff database id script).1 found).1

/-- A script is executed at its database, which is opened first: nothing is sent, or the
transaction of statements that were compiled from the script. -/
theorem execute_effects {database id : String} {db : Database} {script : Script}
    (configured : g.databases.get? database = some db)
    (found : g.script? database id = some script) (sound : g.ShelvesSound seen s)
    (ps : Parameters) (m : Metadata) :
    (∃ opening events, db.Opening around opening ∧
      (events = [] ∨ ∃ statements result left,
        script.CompiledIn (around :: seen) db.dialect statements ∧
        Transaction db.dialect ps m statements s.session.faults s.session.replies events result
          left) ∧
      (g.execute around database id ps m s).2.session.visits =
        s.session.visits ++ (opening ++ events).map (⟨db.id, ·⟩)) ∧
    g.ShelvesSound (around :: seen) (g.execute around database id ps m s).2 := by
  obtain ⟨compiled, keeps⟩ :=
    Script.statements_keeps around db.dialect g.recompile
      (sound id script (script?_get? found))
  have hrun : g.execute around database id ps m s =
      match script.statements around db.dialect g.recompile (s.shelf id) with
      | (.error e, shelf) => (.error e, s.withShelf id shelf)
      | (.ok supply, shelf) =>
        (onSession (db.ensureOpen around) >>= fun _ =>
          onSession (runScript db.dialect supply.statements ps m)) (s.withShelf id shelf) := by
    simp only [execute, Action.bind_apply, Gateway.database, configured, Action.ofExcept_apply,
      found, Action.inside_apply]
    rcases script.statements around db.dialect g.recompile (s.shelf id) with ⟨_ | _, _⟩ <;> rfl
  rw [hrun]
  rcases hstatements : script.statements around db.dialect g.recompile (s.shelf id) with
    ⟨supply, shelf⟩
  rw [hstatements] at compiled keeps
  have hshelves : g.ShelvesSound (around :: seen) (s.withShelf id shelf) := by
    refine (sound.later around).withShelf ?_
    intro other hother
    obtain rfl : script = other := Option.some.inj ((script?_get? found).symm.trans hother)
    exact keeps
  cases supply with
  | error e => exact ⟨⟨[], [], .inl rfl, .inl rfl, by simp⟩, hshelves⟩
  | ok supply =>
    obtain ⟨opening, events, hopening, hsent, hvisits, hsame⟩ :=
      opened_effects (s := s.withShelf id shelf) around db
        (runScript db.dialect supply.statements ps m)
        (fun events => events = [] ∨ ∃ statements result left,
          script.CompiledIn (around :: seen) db.dialect statements ∧
          Transaction db.dialect ps m statements s.session.faults s.session.replies events result
            left) (.inl rfl) (by
        intro session hfaults hreplies
        obtain ⟨events, result, left, hrun, transaction⟩ :=
          runScript_is_transaction db.dialect supply.statements ps m session
        rw [hfaults, hreplies] at transaction
        exact ⟨events, left, by rw [hrun],
          .inr ⟨_, result, left, compiled supply rfl, transaction⟩⟩)
    exact ⟨⟨opening, events, hopening, hsent, hvisits⟩, hshelves.of_shelves hsame⟩

/-- An action on a table that is there opens the database and is performed there. -/
theorem useTable_eq {database id : String} {db : Database} {table : Table}
    (configured : g.databases.get? database = some db)
    (found : g.table? database id = some table) (action : TableAction) (ps : Parameters) :
    g.useTable around database id action ps s =
      (onSession (db.ensureOpen around) >>= fun _ =>
        onSession (table.perform db.dialect action ps g.pageSize)) s := by
  simp [useTable, Action.bind_apply, Gateway.database, configured, found]

/-- An action on a table goes to its database, which is opened first: what is sent was built for
the action and the table. -/
theorem useTable_effects {database id : String} {db : Database} {table : Table}
    (configured : g.databases.get? database = some db)
    (found : g.table? database id = some table) (action : TableAction) (ps : Parameters) :
    ∃ opening events, db.Opening around opening ∧
      (table.shape db.dialect).Sends ps action events ∧
      (g.useTable around database id action ps s).2.session.visits =
        s.session.visits ++ (opening ++ events).map (⟨db.id, ·⟩) ∧
      (g.useTable around database id action ps s).2.shelves = s.shelves := by
  rw [useTable_eq around configured found]
  exact opened_effects around db _ _ .nil
    (fun session _ _ => table.perform_sends db.dialect ps session action g.pageSize)

end Gateway
end SqlRelay
