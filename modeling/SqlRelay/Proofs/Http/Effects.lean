import SqlRelay.Http.Service
import SqlRelay.Proofs.Access.Freshness
import SqlRelay.Proofs.Gateway.Effects
/-!
# What requests leave at databases

A request reaches no database that it was not let through to, and what it sends there is what it
was let through for.

Main results:

- Definition `Gateway.Sends` says what a call may send to its database.
- Definition `Service.Reached` gives the states that requests lead to.
- Theorem `Service.authorized_leaves`: an authorized call finds its object and sends no more than
  that.
- Theorem `Service.dispatch_effects` puts together what every request leaves.
-/

namespace SqlRelay

/-- What the path of a request names. -/
def Request.objectPath (r : Request) : ObjectPath :=
  .ofText r.uri.path

namespace Gateway

variable (g : Gateway)

/-- The object of a call is one that its database can see. -/
def Finds (path : ObjectPath) : Call → Prop
  | .script => ∃ script, g.script? path.database path.object = some script
  | .table _ => ∃ table, g.table? path.database path.object = some table

/-- What a call sends to its database, which is open by then: a script sends the transaction of
statements that were compiled from it, and an action on a table what is built for the table. -/
inductive Sends (seen : List Surroundings) (path : ObjectPath) (db : Database) (ps : Parameters)
    (m : Metadata) (s : Session) : Call → List Event → Prop where
  | script {script : Script} {statements : List Statement} {events : List Event}
      {result : Except RelayError ScriptOutput} {left : List Reply}
      (found : g.script? path.database path.object = some script)
      (compiled : script.CompiledIn seen db.dialect statements)
      (transaction :
        Transaction db.dialect ps m statements s.faults s.replies events result left) :
      Sends seen path db ps m s .script events
  | table {table : Table} {action : TableAction} {events : List Event}
      (found : g.table? path.database path.object = some table)
      (sends : (table.shape db.dialect).Sends ps action events) :
      Sends seen path db ps m s (.table action) events

/-- An authorized call finds its database and its object. -/
theorem finds_of_authorized {around : Surroundings} {r : Request} {path : ObjectPath} {call : Call}
    {s : GatewayState}
    (authorized : (g.authorize around (r.access path call.operation) s).1 = .ok ()) :
    (∃ db, g.databases.get? path.database = some db) ∧ g.Finds path call := by
  obtain ⟨configured, isPublic, ⟨owner, addressed, howner⟩, -⟩ :=
    (g.authorize_eq_ok_iff around _ s).1 authorized
  refine ⟨configured, ?_⟩
  cases call with
  | script =>
    cases addressed with
    | script _ found => exact ⟨_, (g.script?_eq_some_iff _ _ _).2 ⟨found, howner⟩⟩
    | reading operation | writing operation => simp [Request.access, Call.operation] at operation
  | table action =>
    cases addressed with
    | script operation =>
      cases action <;> simp [Request.access, Call.operation, TableAction.operation] at operation
    | reading _ found | writing _ found =>
      exact ⟨_, (g.table?_eq_some_iff _ _ _).2 ⟨found, howner⟩⟩

end Gateway

namespace Service

variable (s : Service) (around : Surroundings) (r : Request) (state : GatewayState)

/-! ## Requests case by case -/

/-- A request that clears its token: the path says so, tokens are cached, and there is one. -/
structure ClearsToken : Prop where
  method : r.method ≠ "OPTIONS"
  path : r.objectPath.database = clearingName
  caching : s.gateway.caching = true
  token : r.token ≠ ""

/-- A request that asks for a call: it is not for options, and clears no token. -/
structure AsksForCall : Prop where
  method : r.method ≠ "OPTIONS"
  keeps : ¬ s.ClearsToken r

/-- The test for clearing a token accepts the requests that do so. -/
theorem clears_iff (method : r.method ≠ "OPTIONS") :
    s.clears r (ObjectPath.ofText r.uri.path) = true ↔ s.ClearsToken r := by
  simp only [clears, Bool.and_eq_true, beq_iff_eq, Bool.not_eq_true', String.isEmpty_eq_false_iff]
  constructor
  · rintro ⟨⟨path, caching⟩, token⟩
    exact ⟨method, path, caching, token⟩
  · rintro ⟨-, path, caching, token⟩
    exact ⟨⟨path, caching⟩, token⟩

theorem handle_of_options (method : r.method = "OPTIONS") :
    s.handle around r state = (.ok (.bare .ok), state) := by
  simp [handle, method]

/-- A request that clears its token is told so, and that is all it does. -/
theorem handle_of_clears (clears : s.ClearsToken r) :
    s.handle around r state =
      (.ok (.json .ok (.object [("success", .text "token cleared")])),
        state.withAccess { state.access with cache := state.access.cache.clear r.token }) := by
  have hclears := (s.clears_iff r clears.method).2 clears
  simp only [handle, beq_iff_eq, clears.method, if_false, hclears, if_true, Action.bind_apply]
  rfl

/-- A request for options is answered without anything being done. -/
theorem dispatch_of_options (method : r.method = "OPTIONS") :
    s.dispatch around r state = (.bare .ok, state) := by
  simp only [dispatch, s.handle_of_options around r state method]

/-- A request that clears its token changes the cache and nothing else. -/
theorem dispatch_of_clears (clears : s.ClearsToken r) :
    (s.dispatch around r state).2 =
      state.withAccess { state.access with cache := state.access.cache.clear r.token } := by
  simp only [dispatch, s.handle_of_clears around r state clears]

variable {s around r state} {call : Call} {t : GatewayState}

/-- A request that asks for a call is authorized, then its parameters are read, and then the call is
carried out. -/
theorem handle_of_asks (asks : s.AsksForCall r) :
    s.handle around r state =
      match callOf r.method r.objectPath.key with
      | .error e => (.error e, state)
      | .ok call =>
        match s.gateway.authorize around (r.access r.objectPath call.operation) state with
        | (.error e, t) => (.error (.relay e), t)
        | (.ok (), t) =>
          match r.parameters s.bodyLimit with
          | .error e => (.error e, t)
          | .ok ps => s.carryOut around r r.objectPath call ps t := by
  have hclears : s.clears r (ObjectPath.ofText r.uri.path) = false := by
    rw [← Bool.not_eq_true, s.clears_iff r asks.method]
    exact asks.keeps
  simp only [handle, beq_iff_eq, asks.method, if_false, hclears, Bool.false_eq_true,
    Action.bind_apply, Action.ofExcept_apply, Request.objectPath]
  cases callOf r.method (ObjectPath.ofText r.uri.path).key with
  | error e => rfl
  | ok call =>
    simp only [relay, Action.mapError]
    rcases s.gateway.authorize around (r.access (ObjectPath.ofText r.uri.path) call.operation) state
      with ⟨_ | _, t⟩
    · rfl
    · cases r.parameters s.bodyLimit <;> rfl

/-- A request that asks for no call is answered with the error that says so. -/
theorem dispatch_of_no_call (asks : s.AsksForCall r) {e : RequestError}
    (none : callOf r.method r.objectPath.key = .error e) :
    s.dispatch around r state = (.ofError e, state) := by
  simp only [dispatch, handle_of_asks asks, none]

/-- A call that is refused goes no further. -/
theorem dispatch_of_refused (asks : s.AsksForCall r)
    (called : callOf r.method r.objectPath.key = .ok call) {e : RelayError}
    (refused : s.gateway.authorize around (r.access r.objectPath call.operation) state =
      (.error e, t)) : s.dispatch around r state = (.ofError (.relay e), t) := by
  simp only [dispatch, handle_of_asks asks, called, refused]

/-- A call that is authorized is carried out, if its parameters can be read. -/
theorem dispatch_of_authorized (asks : s.AsksForCall r)
    (called : callOf r.method r.objectPath.key = .ok call)
    (authorized : s.gateway.authorize around (r.access r.objectPath call.operation) state =
      (.ok (), t)) :
    (s.dispatch around r state).2 =
      match r.parameters s.bodyLimit with
      | .error _ => t
      | .ok ps => (s.carryOut around r r.objectPath call ps t).2 := by
  simp only [dispatch, handle_of_asks asks, called, authorized]
  cases r.parameters s.bodyLimit with
  | error e => rfl
  | ok ps =>
    dsimp only
    rcases s.carryOut around r r.objectPath call ps t with ⟨_ | _, _⟩ <;> rfl

/-- What a call leaves is what its task leaves. -/
theorem carryOut_state (path : ObjectPath) (ps : Parameters) :
    (s.carryOut around r path call ps t).2 =
      match call with
      | .script => (s.gateway.execute around path.database path.object ps r.metadata t).2
      | .table action => (s.gateway.useTable around path.database path.object action ps t).2 := by
  cases call with
  | script =>
    simp only [carryOut, relay, Action.bind_apply, Action.mapError]
    rcases s.gateway.execute around path.database path.object ps r.metadata t with
      ⟨_ | output, u⟩
    · rfl
    · cases hjson : output.json? <;> simp [hjson]
  | table action =>
    simp only [carryOut, relay, Action.bind_apply, Action.mapError]
    rcases s.gateway.useTable around path.database path.object action ps t with ⟨_ | _, _⟩ <;> rfl

/-- An authorized call finds its object, and all that it leaves is at its database: the opening,
and what the call may send. -/
theorem authorized_leaves {seen : List Surroundings} (named : s.gateway.WellNamed)
    (sound : s.gateway.ShelvesSound seen state) (asks : s.AsksForCall r)
    (called : callOf r.method r.objectPath.key = .ok call)
    (authorized : s.gateway.authorize around (r.access r.objectPath call.operation) state =
      (.ok (), t)) :
    s.gateway.Finds r.objectPath call ∧
    (∃ db opening events, s.gateway.databases.get? r.objectPath.database = some db ∧
      db.Opening around opening ∧
      (s.dispatch around r state).2.session.visits =
        t.session.visits ++ (opening ++ events).map (⟨r.objectPath.database, ·⟩) ∧
      (events = [] ∨ ∃ ps, r.parameters s.bodyLimit = .ok ps ∧
        s.gateway.Sends (around :: seen) r.objectPath db ps r.metadata t.session call events)) ∧
    s.gateway.ShelvesSound (around :: seen) (s.dispatch around r state).2 := by
  have hstate :
      t = (s.gateway.authorize around (r.access r.objectPath call.operation) state).2 := by
    rw [authorized]
  have hshelves : s.gateway.ShelvesSound seen t := by
    refine sound.of_shelves ?_
    rw [hstate]
    exact (s.gateway.authorize_onlyAsks around _ state).2
  obtain ⟨⟨db, configured⟩, finds⟩ := s.gateway.finds_of_authorized (by rw [authorized])
  have hid : db.id = r.objectPath.database := named.databases _ _ configured
  refine ⟨finds, ?_⟩
  rw [dispatch_of_authorized asks called authorized]
  cases hparameters : r.parameters s.bodyLimit with
  | error e =>
    exact ⟨⟨db, [], [], configured, .inl rfl, by simp, .inl rfl⟩, hshelves.later around⟩
  | ok ps =>
    simp only [carryOut_state]
    cases call with
    | script =>
      obtain ⟨script, found⟩ := finds
      obtain ⟨⟨opening, events, hopening, hsent, hvisits⟩, hafter⟩ :=
        s.gateway.execute_effects around configured found hshelves ps r.metadata
      rw [hid] at hvisits
      refine ⟨⟨db, opening, events, configured, hopening, hvisits, ?_⟩, hafter⟩
      rcases hsent with hnone | ⟨statements, result, left, compiled, transaction⟩
      · exact .inl hnone
      · exact .inr ⟨ps, rfl, .script found compiled transaction⟩
    | table action =>
      obtain ⟨table, found⟩ := finds
      obtain ⟨opening, events, hopening, sends, hvisits, hsame⟩ :=
        s.gateway.useTable_effects around configured found action ps
      rw [hid] at hvisits
      exact ⟨⟨db, opening, events, configured, hopening, hvisits,
          .inr ⟨ps, rfl, .table found sends⟩⟩,
        (hshelves.later around).of_shelves hsame⟩

/-! ## Reached states -/

/-- The states that requests lead to, with the surroundings that were met.  Between two requests
the databases may come into any state, and so may the cache, since other requests are under way. -/
inductive Reached (s : Service) : List Surroundings → GatewayState → Prop where
  | start : Reached s [] .start
  | answered {seen : List Surroundings} {state : GatewayState} (before : Reached s seen state)
      (around : Surroundings) (r : Request) :
      Reached s (around :: seen) (s.dispatch around r state).2
  | elsewhere {seen : List Surroundings} {state : GatewayState} (before : Reached s seen state)
      (access : AccessState Session) : Reached s seen (state.withAccess access)

/-- Every request keeps the scripts compiled from their texts. -/
theorem dispatch_shelvesSound {seen : List Surroundings} (named : s.gateway.WellNamed)
    (sound : s.gateway.ShelvesSound seen state) :
    s.gateway.ShelvesSound (around :: seen) (s.dispatch around r state).2 := by
  by_cases method : r.method = "OPTIONS"
  · rw [dispatch_of_options s around r state method]
    exact sound.later around
  · by_cases clears : s.ClearsToken r
    · rw [dispatch_of_clears s around r state clears]
      exact (sound.later around).of_shelves rfl
    · have asks : s.AsksForCall r := ⟨method, clears⟩
      cases called : callOf r.method r.objectPath.key with
      | error e =>
        rw [dispatch_of_no_call asks called]
        exact sound.later around
      | ok call =>
        rcases hauthorize : s.gateway.authorize around (r.access r.objectPath call.operation) state
          with ⟨_ | _, t⟩
        · rw [dispatch_of_refused asks called hauthorize]
          refine (sound.later around).of_shelves ?_
          have hsame := (s.gateway.authorize_onlyAsks around
            (r.access r.objectPath call.operation) state).2
          rwa [hauthorize] at hsame
        · exact (authorized_leaves named sound asks called hauthorize).2.2

/-- In every reached state what is kept of a script was compiled from it. -/
theorem Reached.shelvesSound {seen : List Surroundings} (reached : s.Reached seen state)
    (named : s.gateway.WellNamed) : s.gateway.ShelvesSound seen state := by
  induction reached with
  | start => exact .start
  | answered _ around r ih => exact dispatch_shelvesSound named ih
  | elsewhere _ access ih => exact ih.of_shelves rfl

/-- What a request leaves, in every state that requests lead to.  The grants of a managed source
stand in a database of the gateway.

- A request for options leaves nothing.
- A request that clears its token reaches no database and changes the entry of that token only.
- A request whose method asks for nothing, or for a row without its key, leaves nothing.
- Any other request asks for a call, and authorization leaves nothing but what asking the managed
  source leaves.  If the call is refused, that is all.  If it is authorized, its object is there,
  and all that it leaves is at the database of the path: at most one event to open it, and what the
  call may send. -/
theorem dispatch_effects {around₀ : Surroundings} {config : Configuration} {recompile : Bool}
    (built : Gateway.ofConfig around₀ config recompile = .ok s.gateway) {seen : List Surroundings}
    (reached : s.Reached seen state) (around : Surroundings) (r : Request) :
    (∀ m, s.gateway.managed = some m →
      s.gateway.databases.get? m.database.id = some m.database) ∧
    (r.method = "OPTIONS" → (s.dispatch around r state).2 = state) ∧
    (s.ClearsToken r →
      (s.dispatch around r state).2.session = state.session ∧
      (s.dispatch around r state).2.shelves = state.shelves ∧
      ∀ token, token ≠ r.token →
        (s.dispatch around r state).2.access.cache.entries.get? token =
          state.access.cache.entries.get? token) ∧
    (s.AsksForCall r → ∀ e, callOf r.method r.objectPath.key = .error e →
      s.dispatch around r state = (.ofError e, state)) ∧
    (s.AsksForCall r → ∀ call, callOf r.method r.objectPath.key = .ok call → ∀ result t,
      s.gateway.authorize around (r.access r.objectPath call.operation) state = (result, t) →
      (s.gateway.OnlyAsks around r.token state.session t.session ∧ t.shelves = state.shelves) ∧
      (∀ e, result = .error e → s.dispatch around r state = (.ofError (.relay e), t)) ∧
      (result = .ok () →
        s.gateway.Finds r.objectPath call ∧
        ∃ db opening events, s.gateway.databases.get? r.objectPath.database = some db ∧
          db.Opening around opening ∧
          (s.dispatch around r state).2.session.visits =
            t.session.visits ++ (opening ++ events).map (⟨r.objectPath.database, ·⟩) ∧
          (events = [] ∨ ∃ ps, r.parameters s.bodyLimit = .ok ps ∧
            s.gateway.Sends (around :: seen) r.objectPath db ps r.metadata t.session call
              events))) := by
  have named := Gateway.ofConfig_wellNamed built
  refine ⟨named.managed, ?_, ?_, ?_, ?_⟩
  · intro method
    rw [dispatch_of_options s around r state method]
  · intro clears
    rw [dispatch_of_clears s around r state clears]
    refine ⟨rfl, rfl, fun token hne => ?_⟩
    exact (Overlap.clear_get? state.access.cache r.token token).trans (if_neg hne)
  · intro asks e none
    exact dispatch_of_no_call asks none
  · intro asks call called result t hauthorize
    refine ⟨?_, ?_, ?_⟩
    · have hasks := s.gateway.authorize_onlyAsks around
        (r.access r.objectPath call.operation) state
      rwa [hauthorize] at hasks
    · rintro e rfl
      exact dispatch_of_refused asks called hauthorize
    · rintro rfl
      obtain ⟨finds, leaves, -⟩ :=
        authorized_leaves named (reached.shelvesSound named) asks called hauthorize
      exact ⟨finds, leaves⟩

/-! ## A script that inserts -/

/-- One script, which inserts a row, and one SQLite database. -/
def insertingConfig : Configuration where
  web := ⟨none, false, []⟩
  databases := [("db", ⟨"sqlite", "sqlite://db", standardConnections⟩)]
  tables := []
  scripts := [("add", ⟨"", "insert into t values (1)", "", true⟩)]
  tokens := []
  managed := none
  cacheTokens := false
  pageSize := 0

/-- The service of that configuration. -/
def inserting : Service where
  gateway :=
    { databases := [("db", ⟨"db", .sqlite, "sqlite://db"⟩)]
      tables := []
      scripts := [("add", ⟨"add", "", "insert into t values (1)", none, true⟩)]
      tokens := []
      managed := none
      caching := false
      pageSize := 0
      recompile := false }
  bodyLimit := 1024
  cors := false
  extraHeaders := []

/-- A request that executes the script. -/
def addRequest : Request := ⟨"PATCH", ⟨none, "/db/add", none⟩, [], [], none⟩

/-- The database is going to report one row, and then the number of that row. -/
def beforeAdding : GatewayState :=
  GatewayState.start.withAccess ⟨.empty, Session.start.prepare
    [⟨[], 1, none, none⟩, ⟨[[("id", .bigInt 1)]], 0, none, none⟩] .nothing⟩

theorem inserting_built :
    Gateway.ofConfig ⟨[], []⟩ insertingConfig false = .ok inserting.gateway := rfl

/-- The state before the script runs is reached. -/
theorem beforeAdding_reached : inserting.Reached [] beforeAdding :=
  Reached.start.elsewhere _

theorem addRequest_asks : inserting.AsksForCall addRequest where
  method := by decide
  keeps := fun clears => absurd clears.caching (by decide)

/-- Executing the script opens the database and sends the transaction of its statement, with the
query for the row behind it. -/
theorem adding_visits :
    (inserting.dispatch ⟨[], []⟩ addRequest beforeAdding).2.session.visits =
      [⟨"db", .connect "sqlite://db"⟩, ⟨"db", .begin⟩, ⟨"db", .query "insert into t values (1)" []⟩,
        ⟨"db", .query lastRowQuery []⟩, ⟨"db", .commit⟩] := by
  decide +kernel

/-- The script is executed: what it sends is a call's. -/
theorem adding_sends :
    ∃ opening events ps, opening.length ≤ 1 ∧
      [.connect "sqlite://db", .begin, .query "insert into t values (1)" [],
        .query lastRowQuery [], .commit] = opening ++ events ∧
      inserting.gateway.Sends [⟨[], []⟩] addRequest.objectPath ⟨"db", .sqlite, "sqlite://db"⟩ ps
        addRequest.metadata beforeAdding.session .script events := by
  have effects :=
    (dispatch_effects inserting_built beforeAdding_reached ⟨[], []⟩ addRequest).2.2.2.2
  obtain ⟨-, -, carried⟩ := effects addRequest_asks .script (by decide) (.ok ()) beforeAdding rfl
  obtain ⟨-, db, opening, events, configured, hopening, hvisits, hsent⟩ := carried rfl
  obtain rfl : db = ⟨"db", .sqlite, "sqlite://db"⟩ := (Option.some.inj configured).symm
  rw [adding_visits] at hvisits
  have hlength : opening.length ≤ 1 := by
    rcases hopening with rfl | ⟨url, -, rfl⟩ <;> simp
  have hevents := congrArg (List.map Visit.event) hvisits
  rcases hsent with rfl | ⟨ps, -, sends⟩
  · have := congrArg List.length hevents
    simp [beforeAdding, GatewayState.withAccess, GatewayState.session, Session.prepare] at this
    omega
  · refine ⟨opening, events, ps, hlength, ?_, sends⟩
    simpa [beforeAdding, GatewayState.withAccess, GatewayState.session, Session.prepare,
      Function.comp_def] using hevents

/-- Not every query that an authorized execution sends is a statement of the script. -/
theorem adding_sends_lastRowQuery :
    ¬ ∀ (s : Service) (around₀ : Surroundings) (config : Configuration) (recompile : Bool),
      Gateway.ofConfig around₀ config recompile = .ok s.gateway →
      ∀ (seen : List Surroundings) (state : GatewayState), s.Reached seen state →
      ∀ (around : Surroundings) (r : Request), s.AsksForCall r →
      callOf r.method r.objectPath.key = .ok .script →
      ∀ t, s.gateway.authorize around (r.access r.objectPath .exec) state = (.ok (), t) →
      ∀ visit ∈ (s.dispatch around r state).2.session.visits, visit ∉ t.session.visits →
      ∀ sql arguments, visit.event = .query sql arguments →
      ∃ script d statements, s.gateway.script? r.objectPath.database r.objectPath.object =
          some script ∧ script.CompiledIn (around :: seen) d statements ∧
        ∃ statement ∈ statements, sql = r.metadata.splice statement.sql := by
  intro h
  obtain ⟨script, d, statements, found, ⟨around, -, compiled⟩, statement, hmem, hsql⟩ :=
    h inserting ⟨[], []⟩ insertingConfig false inserting_built [] beforeAdding beforeAdding_reached
      ⟨[], []⟩ addRequest addRequest_asks (by decide) beforeAdding rfl
      ⟨"db", .query lastRowQuery []⟩ (by rw [adding_visits]; simp) (by decide) lastRowQuery [] rfl
  obtain rfl : script = ⟨"add", "", "insert into t values (1)", none, true⟩ := by
    have hscript : inserting.gateway.script? addRequest.objectPath.database
        addRequest.objectPath.object =
          some ⟨"add", "", "insert into t values (1)", none, true⟩ := rfl
    exact Option.some.inj (found.symm.trans hscript)
  have hone : (compile "add" "insert into t values (1)".toList d).map (·.map (·.sql)) =
      .ok ["insert into t values (1)"] := by
    cases d <;> decide +kernel
  have hcompiled : compile "add" "insert into t values (1)".toList d = .ok statements := by
    have hsource : Script.source ⟨"add", "", "insert into t values (1)", none, true⟩ around =
        .ok "insert into t values (1)" := rfl
    simp only [Script.compiled, hsource] at compiled
    split at compiled
    · simp at compiled
    · rename_i hfound
      rw [hfound, ← Except.ok.inj compiled]
  rw [hcompiled] at hone
  have htexts : statements.map (·.sql) = ["insert into t values (1)"] := Except.ok.inj hone
  have htext : statement.sql = "insert into t values (1)" := by
    have := List.mem_map_of_mem (f := (·.sql)) hmem
    rw [htexts] at this
    exact List.mem_singleton.1 this
  rw [htext] at hsql
  revert hsql
  decide +kernel

end Service
end SqlRelay
