import SqlRelay.Proofs.Gateway.Outcomes
import SqlRelay.Proofs.Http.Effects
import SqlRelay.Proofs.Http.Paths
import SqlRelay.Proofs.Text.Percent
/-!
# Keys of rows in paths

The key of a row stands at the end of a path, and nothing in a path is decoded: the key that the
database gets is the one that is written there.  So a key in percent notation arrives as it was
meant only if every character of it is shown as it is, whereas a value of a query is read back.

Main results:

- Theorem `Uri.path_of_target`: a target is read with the path that it begins with.
- Definitions `Service.RowRequest` and `SendsKey` say which requests are meant, and that a key
  arrives.
- Theorem `Service.rowKey_arrives_iff`: which keys arrive.
-/

namespace SqlRelay

namespace Uri

/-- The path of a target ends where the query begins. -/
theorem path_of_pathAndQuery {host : Option String} {path query : List Char} {uri : Uri}
    (hsome : path ≠ []) (hquestion : '?' ∉ path) (hnumber : '#' ∉ path)
    (hquery : query = [] ∨ query.head? = some '?')
    (h : pathAndQuery? host (path ++ query) = some uri) : uri.path = String.ofList path := by
  have hbody : (path ++ query).takeWhile (· != '#') = path ++ query.takeWhile (· != '#') :=
    List.takeWhile_append_of_pos fun c hc => bne_iff_ne.2 (ne_of_mem_of_not_mem hc hnumber)
  have hrest : (query.takeWhile (· != '#')).takeWhile (· != '?') = [] := by
    obtain rfl | hmark := hquery
    · rfl
    · obtain ⟨more, rfl⟩ := List.head?_eq_some_iff.1 hmark
      simp
  have hpath : (path ++ query.takeWhile (· != '#')).takeWhile (· != '?') = path := by
    rw [List.takeWhile_append_of_pos fun c hc => bne_iff_ne.2 (ne_of_mem_of_not_mem hc hquestion),
      hrest, List.append_nil]
  have hsome' : path.isEmpty = false := by simpa using hsome
  simp only [pathAndQuery?, hbody, hpath, hsome'] at h
  split at h
  · rw [← Option.some.inj h]
    rfl
  · exact absurd h (by simp)

/-- A target is read with the path that it begins with. -/
theorem path_of_target {path query : String} {uri : Uri} (hslash : path.toList.head? = some '/')
    (hquestion : '?' ∉ path.toList) (hnumber : '#' ∉ path.toList)
    (hquery : query = "" ∨ query.toList.head? = some '?')
    (h : ofText? (path ++ query) = some uri) : uri.path = path := by
  have hsome : path.toList ≠ [] := by
    intro hnone
    simp [hnone] at hslash
  have hfirst : (path.toList ++ query.toList).head? = some '/' := by
    rw [List.head?_append, hslash, Option.some_or]
  have hrest : query.toList = [] ∨ query.toList.head? = some '?' :=
    hquery.imp_left fun hnone => by rw [hnone]; rfl
  simp only [ofText?, String.toList_append, hfirst, if_true] at h
  split at h
  · exact absurd h (by simp)
  · rw [path_of_pathAndQuery hsome hquestion hnumber hrest h, String.ofList_toList]

end Uri

/-! ## Requests for rows -/

/-- What each method does with the row of a key. -/
inductive RowMethod : String → (String → TableAction) → Prop
  | get : RowMethod "GET" .get
  | update : RowMethod "PUT" .update
  | delete : RowMethod "DELETE" .delete

/-- Each method asks for its action on the row. -/
theorem RowMethod.call {method : String} {action : String → TableAction}
    (h : RowMethod method action) (key : String) :
    callOf method (some key) = .ok (.table (action key)) := by
  cases h <;> rfl

theorem RowMethod.ne_options {method : String} {action : String → TableAction}
    (h : RowMethod method action) : method ≠ "OPTIONS" := by
  cases h <;> decide

/-- The operation of a method does not depend on the key. -/
theorem RowMethod.operation {method : String} {action : String → TableAction}
    (h : RowMethod method action) (key key' : String) :
    (action key).operation = (action key').operation := by
  cases h <;> rfl

namespace ObjectPath

/-- Ids that a path holds as they are, and a key that a path can have. -/
structure Addressable (database object key : String) : Prop where
  named : database ≠ ""
  database : ∀ c ∈ database.toList, Uri.isPathChar c = true ∧ c ≠ '/'
  object : ∀ c ∈ object.toList, Uri.isPathChar c = true ∧ c ≠ '/'
  keyed : key ≠ ""
  closed : key.toList.getLast? ≠ some '/'

/-- The path of a row, with its key in percent notation. -/
def rowText (escaped : Char → Bool) (database object key : String) : String :=
  text ⟨database, object, some (Text.percentText escaped key)⟩

variable {escaped : Char → Bool} {database object key : String}

/-- A sign that no path holds, and that the notation escapes, is not in the path of a row. -/
theorem not_mem_rowText {sign : Char} (addressable : Addressable database object key)
    (hsign : Uri.isPathChar sign = false ∧ sign ≠ '/' ∧ sign ≠ '%' ∧ sign ∉ Text.upperHexDigits)
    (hescaped : escaped sign = true) : sign ∉ (rowText escaped database object key).toList := by
  obtain ⟨hpath, hslash, hpercent, hdigit⟩ := hsign
  have hid {id : String} (h : ∀ c ∈ id.toList, Uri.isPathChar c = true ∧ c ≠ '/') :
      sign ∉ id.toList := by
    intro hmem
    simp [(h sign hmem).1] at hpath
  have hkey := Text.not_mem_percentEncode hescaped ⟨hpercent, hdigit⟩ key.toList
  simp [rowText, text, Text.percentText, hid addressable.database, hid addressable.object, hkey,
    hslash]

/-- The path of a row is read with the key as it is written. -/
theorem ofText_rowText (addressable : Addressable database object key) :
    ofText (rowText escaped database object key) =
      ⟨database, object, some (Text.percentText escaped key)⟩ := by
  have hlength := Text.length_le_percentEncode escaped key.toList
  have hkeyed : key.toList ≠ [] := by simpa using addressable.keyed
  have hsome : Text.percentText escaped key ≠ "" := by
    intro hnone
    rw [Text.percentText, String.ofList_eq_empty_iff] at hnone
    simp [hnone, hkeyed] at hlength
  refine ofText_text ⟨addressable.named, fun h => (addressable.database _ h).2 rfl,
    fun h => (addressable.object _ h).2 rfl, ?_⟩
  rintro _ ⟨⟩
  refine ⟨hsome, ?_⟩
  rw [Text.percentText, String.toList_ofList]
  exact Text.getLast?_percentEncode addressable.closed

end ObjectPath

/-- A pair of a query whose parts are in percent notation is read back. -/
theorem queryPairs_percentText {escaped : Char → Bool} (fits : Text.FitsQuery escaped)
    (name value : String) :
    queryPairs (some (Text.percentText escaped name ++ "=" ++ Text.percentText escaped value)) =
      [(name, value)] := by
  have hquery : (Text.percentText escaped name ++ "=" ++ Text.percentText escaped value).toList =
      Text.percentEncode escaped name.toList ++ '=' :: Text.percentEncode escaped value.toList := by
    simp [Text.percentText]
  rw [queryPairs, Option.getD_some, Utf8.encode_eq, hquery, Text.formPairs_percentEncode fits]
  simp only [List.map_cons, List.map_nil, ← Utf8.encode_eq, Utf8.lossy_encode]

namespace Service

variable (s : Service) (around : Surroundings) (r : Request) (state t : GatewayState)

/-- A request for the row of a key that is authorized, and then can be carried out: its database
opens, and has a connection if the row is to be changed. -/
structure RowRequest (escaped : Char → Bool) (database object key : String)
    (action : String → TableAction) : Prop where
  addressable : ObjectPath.Addressable database object key
  fits : Text.FitsPath escaped
  method : RowMethod r.method action
  target : ∃ query, (query = "" ∨ query.toList.head? = some '?') ∧
    Uri.ofText? (ObjectPath.rowText escaped database object key ++ query) = some r.uri
  keeps : ¬ s.ClearsToken r
  authorized : s.gateway.authorize around
    (r.access ⟨database, object, some key⟩ (action key).operation) state = (.ok (), t)
  parameters : ∃ ps, r.parameters s.bodyLimit = .ok ps ∧ (r.method = "PUT" → ps.data.names ≠ [])
  opens : ∃ db, s.gateway.databases.get? database = some db ∧
    (db.ensureOpen around t.session).1 = .ok ()
  connected : (action key).operation = .write → t.session.shortage = none

end Service

/-- A database gets a key: it is opened unless it is open, and one query is sent there, whose last
argument is the key. -/
def SendsKey (before after : Session) (database key : String) : Prop :=
  ∃ opening sql values, (∀ e ∈ opening, ∃ url, e = .connect url) ∧
    after.visits = before.visits ++
      (opening ++ [.query sql (values ++ [.text key])]).map (⟨database, ·⟩)

/-- At most one key arrives. -/
theorem SendsKey.unique {before after : Session} {database key key' : String}
    (h : SendsKey before after database key) (h' : SendsKey before after database key') :
    key = key' := by
  obtain ⟨opening, sql, values, -, hvisits⟩ := h
  obtain ⟨opening', sql', values', -, hvisits'⟩ := h'
  have hsame := List.append_cancel_left (hvisits.symm.trans hvisits')
  have hlast := congrArg List.getLast? hsame
  simp only [List.map_append, List.map_cons, List.map_nil, List.getLast?_concat,
    Option.some.injEq, Visit.mk.injEq, Event.query.injEq, true_and] at hlast
  have hkey := congrArg List.getLast? hlast.2
  simpa using hkey

/-! ## What is sent -/

/-- A query for the row of a key binds the key last. -/
theorem TableShape.Built.binds_key {t : TableShape} {ps : Parameters} {method : String}
    {action : String → TableAction} (rows : RowMethod method action) {key : String} {q : Query}
    (built : t.Built ps (action key) q) : ∃ values, q.arguments = values ++ [.text key] := by
  cases rows with
  | get =>
    cases built with
    | row => exact ⟨[], rfl⟩
  | update =>
    cases built with
    | update columns =>
      unfold TableShape.update at columns
      dsimp only at columns
      split at columns
      · exact absurd columns (by simp)
      · rw [← Except.ok.inj columns]
        exact ⟨_, rfl⟩
  | delete =>
    cases built with
    | delete => exact ⟨[], rfl⟩

/-- A write that makes no rows sends the query that is built for it, unless it is refused or has no
connection. -/
theorem Table.perform_sends_write (table : Table) (d : Dialect) {ps : Parameters}
    {action : TableAction} (write : action.operation = .write) (other : action ≠ .insert)
    (accepted : ∀ e, ¬ TableShape.Refuses ps action e) (pageSize : Nat) {s : Session}
    (connected : s.shortage = none) :
    ∃ q left, (table.shape d).Built ps action q ∧
      (table.perform d action ps pageSize s).2 = s.after [q.event] left := by
  obtain ⟨events, result, left, hrun, written⟩ := table.perform_is_written d ps write pageSize s
  cases written with
  | refused refuses => exact absurd refuses (accepted _)
  | unconnected _ short => exact absurd (short.symm.trans connected) (by simp)
  | @sent q missing events result left built _ sent =>
    have hsingle := sent.single fun inserts => other (built.opens.eq_insert write inserts)
    exact ⟨q, left, built, by rw [hrun, hsingle.1]⟩

/-- An action on the row of a key sends the query that is built for it, unless it is an update with
nothing to update, or a write without a connection. -/
theorem Table.perform_sends_row (table : Table) (d : Dialect) {ps : Parameters} {method : String}
    {action : String → TableAction} (rows : RowMethod method action)
    (given : method = "PUT" → ps.data.names ≠ []) (key : String) (pageSize : Nat) (s : Session)
    (connected : (action key).operation = .write → s.shortage = none) :
    ∃ q left, (table.shape d).Built ps (action key) q ∧
      (table.perform d (action key) ps pageSize s).2 = s.after [q.event] left := by
  cases rows with
  | get =>
    obtain ⟨events, result, left, hrun, got⟩ := table.get_is_got d ps pageSize key s
    refine ⟨_, left, .row key, ?_⟩
    cases got <;> rw [hrun]
  | update =>
    refine table.perform_sends_write d rfl (by simp) ?_ pageSize (connected rfl)
    rintro e ⟨nothing⟩
    exact given rfl ‹_›
  | delete =>
    exact table.perform_sends_write d rfl (by simp) (by rintro e ⟨⟩) pageSize (connected rfl)

namespace Service

variable {s : Service} {around : Surroundings} {r : Request} {state t : GatewayState}

/-- What stands around the relay leaves what a call leaves. -/
theorem answer_state (method : r.method ≠ "OPTIONS") (path : r.uri.path ≠ healthPath) :
    (s.answer around r state).2 = (s.dispatch around r state).2 := by
  simp only [answer, routed, beq_iff_eq, method, path, if_false]
  split <;> rfl

variable {escaped : Char → Bool} {database object key : String} {action : String → TableAction}

namespace RowRequest

variable (request : s.RowRequest around r state t escaped database object key action)

include request

/-- The request has the path of the row. -/
theorem path : r.uri.path = ObjectPath.rowText escaped database object key := by
  obtain ⟨query, hquery, target⟩ := request.target
  refine Uri.path_of_target ?_
    (ObjectPath.not_mem_rowText request.addressable (by decide) request.fits.question)
    (ObjectPath.not_mem_rowText request.addressable (by decide) request.fits.number) hquery target
  simp [ObjectPath.rowText, ObjectPath.text]

/-- The request is for the row of the key as it is written. -/
theorem objectPath :
    r.objectPath = ⟨database, object, some (Text.percentText escaped key)⟩ := by
  rw [Request.objectPath, request.path, ObjectPath.ofText_rowText request.addressable]

theorem asks : s.AsksForCall r :=
  ⟨request.method.ne_options, request.keeps⟩

/-- The call is the action of the method. -/
theorem called :
    callOf r.method r.objectPath.key = .ok (.table (action (Text.percentText escaped key))) := by
  rw [request.objectPath]
  exact request.method.call _

/-- The key is nothing to the authorization. -/
theorem access :
    s.gateway.authorize around
      (r.access r.objectPath (Call.table (action (Text.percentText escaped key))).operation) state =
        (.ok (), t) := by
  rw [← request.authorized, request.objectPath, Call.operation,
    request.method.operation (Text.percentText escaped key) key]
  rfl

/-- The path is not the one that tells whether the service is up. -/
theorem not_health : r.uri.path ≠ healthPath := by
  intro health
  have hkeyless : (ObjectPath.ofText healthPath).key = none := by decide
  rw [← health, ← Request.objectPath, request.objectPath] at hkeyless
  exact absurd hkeyless (by simp)

/-- The key arrives as it is written in the path. -/
theorem sends_written {around₀ : Surroundings} {config : Configuration}
    {recompile : Bool} (built : Gateway.ofConfig around₀ config recompile = .ok s.gateway) :
    SendsKey t.session (s.answer around r state).2.session database
      (Text.percentText escaped key) := by
  obtain ⟨ps, hparameters, given⟩ := request.parameters
  obtain ⟨db, configured, opens⟩ := request.opens
  have hid : db.id = database := (Gateway.ofConfig_wellNamed built).databases _ _ configured
  have haccess := request.access
  obtain ⟨-, table, found⟩ := s.gateway.finds_of_authorized (congrArg Prod.fst haccess)
  rw [request.objectPath] at found
  obtain ⟨opening, hopening, turned⟩ := db.ensureOpen_visits around t.session
  rcases hopened : db.ensureOpen around t.session with ⟨result, session⟩
  rw [hopened] at opens turned
  obtain rfl : result = .ok () := opens
  have connected : (action (Text.percentText escaped key)).operation = .write →
      session.shortage = none := by
    rw [request.method.operation (Text.percentText escaped key) key, turned.shortage]
    exact request.connected
  obtain ⟨q, left, queried, hrun⟩ := table.perform_sends_row db.dialect request.method given
    (Text.percentText escaped key) s.gateway.pageSize session connected
  obtain ⟨values, hvalues⟩ := queried.binds_key request.method
  have hsession : (s.answer around r state).2.session = session.after [q.event] left := by
    rw [answer_state request.asks.method request.not_health,
      dispatch_of_authorized request.asks request.called haccess]
    simp only [hparameters, carryOut_state, request.objectPath]
    rw [Gateway.useTable_eq around configured found]
    simp only [Action.bind_apply, Gateway.onSession, Action.inside_apply, hopened,
      GatewayState.withSession_session, hrun]
  refine ⟨opening, q.sql, values, ?_, ?_⟩
  · obtain rfl | ⟨url, -, rfl⟩ := hopening
    · simp
    · simp
  · rw [hsession, Session.after_visits, turned.visits, turned.inUse, hid, Query.event, hvalues]
    simp

end RowRequest

/-- The key of a row arrives exactly if percent notation shows every character of it as it is,
whereas a value of a query arrives in any percent notation that may stand there. -/
theorem rowKey_arrives_iff {around₀ : Surroundings} {config : Configuration}
    {recompile : Bool} (built : Gateway.ofConfig around₀ config recompile = .ok s.gateway)
    (request : s.RowRequest around r state t escaped database object key action) :
    (SendsKey t.session (s.answer around r state).2.session database key ↔
      ∀ c ∈ key.toList, escaped c = false) ∧
    (Text.FitsQuery escaped → ∀ name,
      queryPairs (some (Text.percentText escaped name ++ "=" ++ Text.percentText escaped key)) =
        [(name, key)]) := by
  have hwritten := request.sends_written built
  constructor
  · rw [← Text.percentText_eq_self_iff]
    constructor
    · exact fun arrives => hwritten.unique arrives
    · intro hsame
      rwa [hsame] at hwritten
  · exact fun fits name => queryPairs_percentText fits name key

/-! ## A table that anyone may read -/

/-- One SQLite database, and a table that anyone may read. -/
def readableConfig : Configuration where
  web := ⟨none, false, []⟩
  databases := [("db", ⟨"sqlite", "sqlite://db", standardConnections⟩)]
  tables := [("t", ⟨"", "", "", [], true, false, 0, "", false⟩)]
  scripts := []
  tokens := []
  managed := none
  cacheTokens := false
  pageSize := 0

/-- The service of that configuration. -/
def readable : Service where
  gateway :=
    { databases := [("db", ⟨"db", .sqlite, "sqlite://db"⟩)]
      tables := [("t", ⟨"t", "", "t", "ID", [], true, false, 0, "", false⟩)]
      scripts := []
      tokens := []
      managed := none
      caching := false
      pageSize := 0
      recompile := false }
  bodyLimit := 1024
  cors := false
  extraHeaders := []

theorem readable_built :
    Gateway.ofConfig ⟨[], []⟩ readableConfig false = .ok readable.gateway := rfl

/-- Percent notation that shows letters and digits as they are. -/
def escapedInParts (c : Char) : Bool :=
  !c.isAlphanum

/-- A request for the row that a path names. -/
def readRequest (path : String) : Request :=
  ⟨"GET", ⟨none, path, none⟩, [], [], none⟩

/-- A request for the path of a row is one that is meant. -/
theorem readRequest_rows {key path : String}
    (addressable : ObjectPath.Addressable "db" "t" key)
    (target : Uri.ofText? (ObjectPath.rowText escapedInParts "db" "t" key) =
      some ⟨none, path, none⟩) :
    readable.RowRequest ⟨[], []⟩ (readRequest path) .start .start escapedInParts "db" "t" key
      .get where
  addressable := addressable
  fits := ⟨by decide, by decide⟩
  method := .get
  target := ⟨"", .inl rfl, by rw [String.append_empty, target]; rfl⟩
  keeps := fun clears => absurd clears.caching (by decide)
  authorized := rfl
  parameters := ⟨[], rfl, fun update => absurd update (by simp [readRequest])⟩
  opens := ⟨_, rfl, by decide +kernel⟩
  connected := fun _ => rfl

/-- The row of a number can be asked for. -/
theorem numberedRow_request :
    readable.RowRequest ⟨[], []⟩ (readRequest "/db/t/7") .start .start escapedInParts "db" "t" "7"
      .get :=
  readRequest_rows
    ⟨by decide, by simp [Uri.isPathChar], by simp [Uri.isPathChar], by decide, by decide⟩
    (by decide +kernel)

theorem spacedRow_request :
    readable.RowRequest ⟨[], []⟩ (readRequest "/db/t/a%20b") .start .start escapedInParts "db" "t"
      "a b" .get :=
  readRequest_rows
    ⟨by decide, by simp [Uri.isPathChar], by simp [Uri.isPathChar], by decide, by decide⟩
    (by decide +kernel)

/-- A key without signs arrives, in a path and as a value of a query. -/
theorem numberedKey_arrives :
    Gateway.ofConfig ⟨[], []⟩ readableConfig false = .ok readable.gateway ∧
    readable.RowRequest ⟨[], []⟩ (readRequest "/db/t/7") .start .start escapedInParts "db" "t" "7"
      .get ∧
    SendsKey GatewayState.start.session
      (readable.answer ⟨[], []⟩ (readRequest "/db/t/7") .start).2.session "db" "7" ∧
    Text.FitsQuery escapedInParts ∧
    queryPairs (some (Text.percentText escapedInParts "row id" ++ "=" ++
      Text.percentText escapedInParts "7")) = [("row id", "7")] := by
  have fits : Text.FitsQuery escapedInParts := ⟨by decide, by decide, by decide, by decide⟩
  obtain ⟨arrives, queried⟩ := rowKey_arrives_iff readable_built numberedRow_request
  exact ⟨readable_built, numberedRow_request,
    arrives.2 (by simp [escapedInParts, Char.isAlphanum, Char.isDigit]), fits,
    queried fits "row id"⟩

/-- A key with a blank does not arrive. -/
theorem spacedKey_arrives_escaped :
    readable.RowRequest ⟨[], []⟩ (readRequest "/db/t/a%20b") .start .start escapedInParts "db" "t"
      "a b" .get ∧
    ¬ SendsKey GatewayState.start.session
      (readable.answer ⟨[], []⟩ (readRequest "/db/t/a%20b") .start).2.session "db" "a b" := by
  refine ⟨spacedRow_request, fun arrives => ?_⟩
  have hsame := (spacedRow_request.sends_written readable_built).unique arrives
  exact absurd hsame (by decide)

end Service
end SqlRelay
